import Mathlib.Data.List.Sort

/-! Lists in the order of a key, and their pages: each page continues after the
key of the last element of the page before it. -/

namespace ByokGrid

section Ordered

variable {α κ : Type} [LinearOrder κ] (key : α → κ) (xs : List α)

def orderedBy : List α :=
  xs.insertionSort fun x y => key x ≤ key y

theorem orderedBy_perm : (orderedBy key xs).Perm xs :=
  List.perm_insertionSort _ xs

variable {key xs}

@[simp] theorem mem_orderedBy {x : α} : x ∈ orderedBy key xs ↔ x ∈ xs :=
  (orderedBy_perm key xs).mem_iff

theorem orderedBy_sorted (hnd : (xs.map key).Nodup) : (orderedBy key xs).Pairwise fun x y => key x < key y := by
  have hle : (orderedBy key xs).Pairwise fun x y => key x ≤ key y := by
    have : Std.Total fun x y : α => key x ≤ key y := ⟨fun x y => le_total (key x) (key y)⟩
    have : IsTrans α fun x y => key x ≤ key y := ⟨fun _ _ _ => le_trans⟩
    exact List.pairwise_insertionSort _ xs
  have hne : (orderedBy key xs).Pairwise fun x y => key x ≠ key y :=
    List.pairwise_map.mp (((orderedBy_perm key xs).map key).nodup_iff.mpr hnd)
  exact hle.imp₂ (fun _ _ => lt_of_le_of_ne) hne

theorem orderedBy_eq {ys : List α} (hsorted : ys.Pairwise fun x y => key x < key y) (hperm : ys.Perm xs) :
    orderedBy key xs = ys := by
  have hnd : (xs.map key).Nodup := by
    refine ((hperm.map key).nodup_iff).mp ?_
    exact List.pairwise_map.mpr (hsorted.imp fun hlt => hlt.ne)
  refine List.Perm.eq_of_pairwise ?_ (orderedBy_sorted hnd) hsorted ((orderedBy_perm key xs).trans hperm.symm)
  intro x y _ _ hlt hgt
  exact absurd hgt (lt_asymm hlt)

theorem orderedBy_filter (hnd : (xs.map key).Nodup) (p : α → Bool) :
    orderedBy key (xs.filter p) = (orderedBy key xs).filter p :=
  orderedBy_eq ((orderedBy_sorted hnd).filter p) ((orderedBy_perm key xs).filter p)

end Ordered

theorem filter_after {α : Type} {r : α → α → Prop} (hasymm : ∀ x y, r x y → ¬ r y x) {before after : List α} {x : α}
    (hsorted : (before ++ x :: after).Pairwise r) {p : α → Bool} (hp : ∀ y ∈ before ++ x :: after, p y = true ↔ r x y) :
    (before ++ x :: after).filter p = after := by
  obtain ⟨_, hright, hacross⟩ := List.pairwise_append.mp hsorted
  obtain ⟨hlater, _⟩ := List.pairwise_cons.mp hright
  rw [List.filter_append, List.filter_eq_nil_iff.mpr, List.nil_append, List.filter_cons_of_neg, List.filter_eq_self.mpr]
  · intro y hy
    exact (hp y (List.mem_append_right _ (List.mem_cons_of_mem _ hy))).mpr (hlater y hy)
  · intro htrue
    have hself := (hp x (List.mem_append_right _ List.mem_cons_self)).mp htrue
    exact hasymm x x hself hself
  · intro y hy htrue
    exact hasymm y x (hacross y hy x List.mem_cons_self) ((hp y (List.mem_append_left _ hy)).mp htrue)


section Traversal

variable {ε γ β : Type}

inductive Traverses (fetch : Option γ → Except ε (List β × Option γ)) : Option γ → List β → Prop where
  | last {cursor : Option γ} {page : List β} (hfetch : fetch cursor = .ok (page, none)) : Traverses fetch cursor page
  | next {cursor : Option γ} {page rest : List β} {after : γ} (hfetch : fetch cursor = .ok (page, some after))
      (hrest : Traverses fetch (some after) rest) : Traverses fetch cursor (page ++ rest)

variable {fetch : Option γ → Except ε (List β × Option γ)} {cursor : Option γ}

end Traversal

section Pages

variable {α β γ ε : Type} (limit : Nat) (shown : α → β) (token : α → γ) (rows : List α)

/-- The page after the first `start` rows, with the token of its last row when more rows follow. -/
def pageFrom (start : Nat) : List β × Option γ :=
  (((rows.drop start).take limit).map shown,
    if start + limit < rows.length then rows[start + limit - 1]?.map token else none)

def PageEnd (row : α) : Prop :=
  ∃ k, 0 < k ∧ k * limit < rows.length ∧ rows[k * limit - 1]? = some row

variable {limit shown token rows} {fetch : Option γ → Except ε (List β × Option γ)} {good : α → Prop}

theorem pageFrom_last {start : Nat} (h : rows.length ≤ start + limit) :
    pageFrom limit shown token rows start = ((rows.drop start).map shown, none) := by
  have hshort : (rows.drop start).length ≤ limit := by
    rw [List.length_drop]
    omega
  rw [pageFrom, if_neg (Nat.not_lt.mpr h), List.take_of_length_le hshort]

variable (shown token) in
theorem pageFrom_next (hlimit : 0 < limit) {start : Nat} (h : start + limit < rows.length) :
    ∃ row, rows[start + limit - 1]? = some row ∧
      pageFrom limit shown token rows start = (((rows.drop start).take limit).map shown, some (token row)) := by
  have hrow : rows[start + limit - 1]? = some rows[start + limit - 1] := List.getElem?_eq_getElem (by omega)
  exact ⟨_, hrow, by rw [pageFrom, if_pos h, hrow, Option.map_some]⟩

theorem Traverses.good_of_pages (hlimit : 0 < limit)
    (hgood : ∀ start row, rows[start]? = some row → good row →
      fetch (some (token row)) = .ok (pageFrom limit shown token rows (start + 1)))
    (hbad : ∀ row ∈ rows, ¬ good row → ∀ page, fetch (some (token row)) ≠ .ok page)
    {cursor : Option γ} {ys : List β} (h : Traverses fetch cursor ys) :
    ∀ {start}, fetch cursor = .ok (pageFrom limit shown token rows start) →
      ∀ {k row}, 0 < k → start + k * limit < rows.length → rows[start + k * limit - 1]? = some row → good row := by
  induction h with
  | last hfetch =>
    intro start hstart k row hk hmore hrow
    have hfirst : limit ≤ k * limit := Nat.le_mul_of_pos_left limit hk
    have hfollows : start + limit < rows.length := by omega
    obtain ⟨_, _, hpage⟩ := pageFrom_next shown token hlimit hfollows
    rw [hstart, hpage] at hfetch
    cases hfetch
  | @next cursor page rest after hfetch hrest ih =>
    intro start hstart k row hk hmore hrow
    have hfirst : limit ≤ k * limit := Nat.le_mul_of_pos_left limit hk
    have hfollows : start + limit < rows.length := by omega
    obtain ⟨last, hlast, hpage⟩ := pageFrom_next shown token hlimit hfollows
    rw [hstart, hpage] at hfetch
    cases hfetch
    have haccepted : good last := by
      by_contra hrefused
      cases hrest with
      | last hfetch => exact hbad last (List.mem_of_getElem? hlast) hrefused _ hfetch
      | next hfetch _ => exact hbad last (List.mem_of_getElem? hlast) hrefused _ hfetch
    obtain ⟨k, rfl⟩ : ∃ j, k = j + 1 := ⟨k - 1, by omega⟩
    rcases Nat.eq_zero_or_pos k with rfl | hpos
    · rw [Nat.zero_add, Nat.one_mul, hlast] at hrow
      cases hrow
      exact haccepted
    · have hafter := hgood _ last hlast haccepted
      rw [Nat.sub_add_cancel (by omega : 1 ≤ start + limit)] at hafter
      rw [Nat.succ_mul, Nat.add_comm (k * limit), ← Nat.add_assoc] at hmore hrow
      exact ih hafter hpos hmore hrow

theorem Traverses.of_good_pages (hlimit : 0 < limit)
    (hgood : ∀ start row, rows[start]? = some row → good row →
      fetch (some (token row)) = .ok (pageFrom limit shown token rows (start + 1)))
    {cursor : Option γ} {start : Nat} (hfetch : fetch cursor = .ok (pageFrom limit shown token rows start))
    (hends : ∀ k row, 0 < k → start + k * limit < rows.length → rows[start + k * limit - 1]? = some row → good row) :
    Traverses fetch cursor ((rows.drop start).map shown) := by
  induction hremaining : rows.length - start using Nat.strong_induction_on generalizing cursor start with
  | _ remaining ih =>
    by_cases hmore : start + limit < rows.length
    · obtain ⟨last, hlast, hpage⟩ := pageFrom_next shown token hlimit hmore
      have haccepted := hends 1 last Nat.one_pos (by omega) (by rwa [Nat.one_mul])
      have hafter := hgood _ last hlast haccepted
      rw [Nat.sub_add_cancel (by omega : 1 ≤ start + limit)] at hafter
      have hrest := ih (rows.length - (start + limit)) (by omega) hafter (fun k row hk hlt hrow => by
        rw [Nat.add_assoc, Nat.add_comm limit, ← Nat.succ_mul] at hlt hrow
        exact hends (k + 1) row k.succ_pos hlt hrow) rfl
      rw [hpage] at hfetch
      have hall := Traverses.next hfetch hrest
      rwa [← List.map_append, ← List.drop_drop, List.take_append_drop] at hall
    · rw [pageFrom_last (by omega)] at hfetch
      exact .last hfetch

theorem Traverses.iff_pageEnds (hlimit : 0 < limit) (hfirst : fetch none = .ok (pageFrom limit shown token rows 0))
    (hgood : ∀ start row, rows[start]? = some row → good row →
      fetch (some (token row)) = .ok (pageFrom limit shown token rows (start + 1)))
    (hbad : ∀ row ∈ rows, ¬ good row → ∀ page, fetch (some (token row)) ≠ .ok page) :
    Traverses fetch none (rows.map shown) ↔ ∀ row, PageEnd limit rows row → good row := by
  constructor
  · rintro htraverses row ⟨k, hk, hmore, hrow⟩
    rw [← Nat.zero_add (k * limit)] at hmore hrow
    exact htraverses.good_of_pages hlimit hgood hbad hfirst hk hmore hrow
  · intro hends
    have hall := Traverses.of_good_pages hlimit hgood hfirst fun k row hk hmore hrow => by
      rw [Nat.zero_add] at hmore hrow
      exact hends row ⟨k, hk, hmore, hrow⟩
    exact hall

end Pages

end ByokGrid
