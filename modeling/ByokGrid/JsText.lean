import Mathlib.Data.List.Sort
import Mathlib.Data.List.TakeWhile
import Mathlib.Data.String.Basic
import Mathlib.Algebra.GroupWithZero.Nat

/-! JavaScript text operations: white space, trimming, collapsing runs of white
space, the length in UTF-16 code units and in bytes, and the order of identifiers. -/

namespace ByokGrid

/-- The white space and line terminators which `trim` removes and `\s` matches. -/
def isJsWhitespace (c : Char) : Bool :=
  let n := c.toNat
  (9 ≤ n && n ≤ 13) || n == 0x20 || n == 0xA0 || n == 0x1680 || (0x2000 ≤ n && n ≤ 0x200A) ||
    n == 0x2028 || n == 0x2029 || n == 0x202F || n == 0x205F || n == 0x3000 || n == 0xFEFF

def trimStart (cs : List Char) : List Char :=
  cs.dropWhile isJsWhitespace

def trimChars (cs : List Char) : List Char :=
  (trimStart (trimStart cs).reverse).reverse

def jsTrim (s : String) : String :=
  String.ofList (trimChars s.toList)

/-- `replaceAll(/\s+/g, ' ')`; the flag says whether a run is open. -/
def collapseChars : Bool → List Char → List Char
  | _, [] => []
  | inRun, c :: cs =>
    if isJsWhitespace c then
      if inRun then collapseChars true cs else ' ' :: collapseChars true cs
    else c :: collapseChars false cs

def collapseWhitespace (s : String) : String :=
  String.ofList (collapseChars false s.toList)

/-- `String.prototype.length`: a character outside the basic plane is two code units. -/
def utf16Length (s : String) : Nat :=
  s.toList.length + s.toList.countP fun c => c.toNat > 0xFFFF

def Trimmed (cs : List Char) : Prop :=
  (∀ c ∈ cs.head?, isJsWhitespace c = false) ∧ (∀ c ∈ cs.getLast?, isJsWhitespace c = false)

theorem trimStart_of_head {cs : List Char} (h : ∀ c ∈ cs.head?, isJsWhitespace c = false) :
    trimStart cs = cs := by
  cases cs with
  | nil => rfl
  | cons c cs => simp [trimStart, h c (by simp)]

theorem trimChars_of_trimmed {cs : List Char} (h : Trimmed cs) : trimChars cs = cs := by
  rw [trimChars, trimStart_of_head h.1, trimStart_of_head, List.reverse_reverse]
  intro c hc
  exact h.2 c (by simpa using hc)

theorem head_trimStart (cs : List Char) : ∀ c ∈ (trimStart cs).head?, isJsWhitespace c = false := by
  intro c hc
  have hne : trimStart cs ≠ [] := by
    intro he
    simp [he] at hc
  have hhead := List.head_dropWhile_not isJsWhitespace hne
  rw [Option.mem_def, List.head?_eq_some_head hne, Option.some.injEq] at hc
  rwa [← hc]

theorem trimmed_trimChars (cs : List Char) : Trimmed (trimChars cs) := by
  have hlast : ∀ c ∈ (trimChars cs).getLast?, isJsWhitespace c = false := by
    intro c hc
    exact head_trimStart _ c (by simpa [trimChars] using hc)
  refine ⟨fun c hc => ?_, hlast⟩
  have hsuffix : trimChars cs <+: trimStart cs := by
    have h := (List.dropWhile_suffix isJsWhitespace (l := (trimStart cs).reverse)).reverse
    simpa [trimChars, trimStart] using h
  obtain ⟨rest, hrest⟩ := hsuffix
  refine head_trimStart cs c ?_
  rw [← hrest]
  cases htrim : trimChars cs with
  | nil => simp [htrim] at hc
  | cons d ds => simpa [htrim] using hc

@[simp] theorem jsTrim_jsTrim (s : String) : jsTrim (jsTrim s) = jsTrim s := by
  simp [jsTrim, trimChars_of_trimmed (trimmed_trimChars s.toList)]

theorem trimChars_eq_nil {cs : List Char} : trimChars cs = [] ↔ ∀ c ∈ cs, isJsWhitespace c = true := by
  constructor
  · intro h
    by_contra hvisible
    have hne : trimStart cs ≠ [] := fun he => hvisible (List.dropWhile_eq_nil_iff.mp he)
    have hall : ∀ c ∈ (trimStart cs).reverse, isJsWhitespace c = true := by
      rw [trimChars, List.reverse_eq_nil_iff] at h
      exact List.dropWhile_eq_nil_iff.mp h
    have hhead := head_trimStart cs _ (List.head?_eq_some_head hne)
    rw [hall _ (List.mem_reverse.mpr (List.head_mem hne))] at hhead
    cases hhead
  · intro h
    rw [trimChars, trimStart, trimStart, List.dropWhile_eq_nil_iff.mpr h]
    rfl

theorem jsTrim_ne_empty {s : String} : jsTrim s ≠ "" ↔ ∃ c ∈ s.toList, isJsWhitespace c = false := by
  have hempty : jsTrim s = "" ↔ trimChars s.toList = [] := by
    rw [jsTrim, ← String.toList_eq_nil_iff, String.toList_ofList]
  rw [Ne, hempty, trimChars_eq_nil]
  simp

theorem jsTrim_sublist (s : String) : (jsTrim s).toList.Sublist s.toList := by
  have hinner : (trimStart s.toList).Sublist s.toList := (List.dropWhile_suffix _).sublist
  have houter : (trimStart (trimStart s.toList).reverse).Sublist (trimStart s.toList).reverse :=
    (List.dropWhile_suffix _).sublist
  simpa [jsTrim, trimChars] using (List.reverse_sublist.mpr houter).trans (by simpa using hinner)

theorem utf16Length_jsTrim_le (s : String) : utf16Length (jsTrim s) ≤ utf16Length s :=
  Nat.add_le_add (jsTrim_sublist s).length_le (jsTrim_sublist s).countP_le

theorem utf16Length_pos {s : String} (h : s ≠ "") : 1 ≤ utf16Length s := by
  have hne : s.toList ≠ [] := fun he => h (String.toList_eq_nil_iff.mp he)
  have hpos := List.length_pos_iff.mpr hne
  rw [utf16Length]
  omega

theorem utf8ByteSize_ofList (text : List Char) : (String.ofList text).utf8ByteSize = (text.map Char.utf8Size).sum := by
  induction text with
  | nil => rfl
  | cons c text ih =>
    rw [List.map_cons, List.sum_cons, ← ih, ← List.singleton_append, String.ofList_append, String.utf8ByteSize_append]
    simp

theorem utf8ByteSize_ofList_le (text : List Char) : (String.ofList text).utf8ByteSize ≤ 4 * text.length := by
  induction text with
  | nil => exact Nat.le_refl 0
  | cons c text ih =>
    have hsize := c.utf8Size_le_four
    rw [utf8ByteSize_ofList] at ih ⊢
    rw [List.map_cons, List.sum_cons, List.length_cons]
    omega

theorem utf8ByteSize_le (text : String) : text.utf8ByteSize ≤ 4 * text.toList.length := by
  have hsize := utf8ByteSize_ofList_le text.toList
  rwa [String.ofList_toList] at hsize

theorem length_le_utf8ByteSize (text : List Char) : text.length ≤ (String.ofList text).utf8ByteSize := by
  rw [utf8ByteSize_ofList]
  induction text with
  | nil => exact Nat.le_refl 0
  | cons c text ih =>
    have hsize := c.utf8Size_pos
    rw [List.map_cons, List.sum_cons, List.length_cons]
    omega

def Collapsed : Bool → List Char → Prop
  | _, [] => True
  | inRun, c :: cs =>
    if isJsWhitespace c then inRun = false ∧ c = ' ' ∧ Collapsed true cs else Collapsed false cs

theorem collapseChars_collapsed (inRun : Bool) (cs : List Char) :
    Collapsed inRun (collapseChars inRun cs) := by
  induction cs generalizing inRun with
  | nil => trivial
  | cons c cs ih =>
    simp only [collapseChars]
    cases hc : isJsWhitespace c with
    | true =>
      cases inRun with
      | true => simpa using ih true
      | false => exact ⟨rfl, rfl, ih true⟩
    | false => simpa [Collapsed, hc] using ih false

theorem collapseChars_of_collapsed {inRun : Bool} {cs : List Char} (h : Collapsed inRun cs) :
    collapseChars inRun cs = cs := by
  induction cs generalizing inRun with
  | nil => rfl
  | cons c cs ih =>
    simp only [Collapsed] at h
    cases hc : isJsWhitespace c with
    | true =>
      obtain ⟨rfl, rfl, hrest⟩ := by simpa [hc] using h
      simp [collapseChars, hc, ih hrest]
    | false => simp [collapseChars, hc, ih (by simpa [hc] using h)]

theorem mem_collapseChars {inRun : Bool} {cs : List Char} {c : Char} (h : c ∈ collapseChars inRun cs) :
    c = ' ' ∨ c ∈ cs := by
  induction cs generalizing inRun with
  | nil => cases h
  | cons d cs ih =>
    simp only [collapseChars] at h
    split at h
    · split at h
      · exact (ih h).imp_right (List.mem_cons_of_mem d)
      · rcases List.mem_cons.mp h with rfl | hrest
        · exact Or.inl rfl
        · exact (ih hrest).imp_right (List.mem_cons_of_mem d)
    · rcases List.mem_cons.mp h with rfl | hrest
      · exact Or.inr List.mem_cons_self
      · exact (ih hrest).imp_right (List.mem_cons_of_mem d)

theorem collapseChars_append_visible (inRun : Bool) (cs : List Char) {c : Char}
    (hc : isJsWhitespace c = false) : collapseChars inRun (cs ++ [c]) = collapseChars inRun cs ++ [c] := by
  induction cs generalizing inRun with
  | nil => simp [collapseChars, hc]
  | cons d cs ih =>
    simp only [List.cons_append, collapseChars, ih]
    cases isJsWhitespace d <;> cases inRun <;> simp

theorem Trimmed.collapse {cs : List Char} (h : Trimmed cs) : Trimmed (collapseChars false cs) := by
  constructor
  · cases cs with
    | nil => simp [collapseChars]
    | cons c cs =>
      have hc := h.1 c (by simp)
      simp [collapseChars, hc]
  · rcases List.eq_nil_or_concat cs with rfl | ⟨init, c, rfl⟩
    · simp [collapseChars]
    · have hc := h.2 c (by simp)
      rw [List.concat_eq_append, collapseChars_append_visible false init hc]
      simpa using hc

@[simp] theorem collapseWhitespace_collapseWhitespace (s : String) :
    collapseWhitespace (collapseWhitespace s) = collapseWhitespace s := by
  simp [collapseWhitespace, collapseChars_of_collapsed (collapseChars_collapsed false s.toList)]

@[simp] theorem jsTrim_collapse_jsTrim (s : String) :
    jsTrim (collapseWhitespace (jsTrim s)) = collapseWhitespace (jsTrim s) := by
  simp [jsTrim, collapseWhitespace, trimChars_of_trimmed (trimmed_trimChars s.toList).collapse]

/-- `Array.prototype.sort` on identifiers. -/
def sortStrings (ids : List String) : List String :=
  ids.insertionSort (· ≤ ·)

theorem sortStrings_perm (ids : List String) : (sortStrings ids).Perm ids :=
  List.perm_insertionSort _ _

theorem sortStrings_sorted (ids : List String) : (sortStrings ids).Pairwise (· ≤ ·) :=
  List.pairwise_insertionSort _ _

end ByokGrid
