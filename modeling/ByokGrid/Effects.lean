import Mathlib.Logic.Basic

/-! Programs over a state which may stop with an error and keep the state they have
reached: what holds of the result, and the rules by which it is derived. -/

namespace ByokGrid

section Programs

variable {ε σ α β : Type}

def Ensures (program : EStateM ε σ α) (s : σ) (post : α → σ → Prop) (stopped : ε → σ → Prop) : Prop :=
  match program s with
  | .ok a t => post a t
  | .error e t => stopped e t

variable {program : EStateM ε σ α} {s : σ} {post : α → σ → Prop} {stopped : ε → σ → Prop}

theorem Ensures.of_ok (h : Ensures program s post stopped) {a : α} {t : σ} (hrun : program s = .ok a t) : post a t := by
  rw [Ensures, hrun] at h
  exact h

theorem Ensures.of_error (h : Ensures program s post stopped) {e : ε} {t : σ} (hrun : program s = .error e t) :
    stopped e t := by
  rw [Ensures, hrun] at h
  exact h

theorem Ensures.mono {post' : α → σ → Prop} {stopped' : ε → σ → Prop} (h : Ensures program s post stopped)
    (hpost : ∀ a t, post a t → post' a t) (hstopped : ∀ e t, stopped e t → stopped' e t) :
    Ensures program s post' stopped' := by
  unfold Ensures at h ⊢
  cases hrun : program s with
  | ok a t =>
    rw [hrun] at h
    exact hpost a t h
  | error e t =>
    rw [hrun] at h
    exact hstopped e t h

theorem Ensures.pure {a : α} (h : post a s) : Ensures (pure a) s post stopped := h

theorem Ensures.throw {e : ε} (h : stopped e s) : Ensures (throw e : EStateM ε σ α) s post stopped := h

theorem Ensures.get {post : σ → σ → Prop} (h : post s s) : Ensures (get : EStateM ε σ σ) s post stopped := h

theorem Ensures.modify {f : σ → σ} {post : PUnit → σ → Prop} (h : post ⟨⟩ (f s)) :
    Ensures (modify f : EStateM ε σ PUnit) s post stopped := h

theorem Ensures.bind {next : α → EStateM ε σ β} {post : β → σ → Prop}
    (h : Ensures program s (fun a t => Ensures (next a) t post stopped) stopped) :
    Ensures (program >>= next) s post stopped := by
  unfold Ensures at h ⊢
  simp only [Bind.bind, EStateM.bind]
  cases hrun : program s with
  | ok a t =>
    rw [hrun] at h
    exact h
  | error e t =>
    rw [hrun] at h
    exact h

def ofExcept (result : Except ε α) : EStateM ε σ α :=
  match result with
  | .ok a => pure a
  | .error e => throw e

theorem Ensures.ofExcept {result : Except ε α} (hok : ∀ a, result = .ok a → post a s)
    (herror : ∀ e, result = .error e → stopped e s) : Ensures (ofExcept result) s post stopped := by
  cases result with
  | ok a => exact hok a rfl
  | error e => exact herror e rfl

def stopIf (condition : Bool) (e : ε) : EStateM ε σ Unit :=
  if condition then throw e else pure ()

theorem Ensures.stopIf {condition : Bool} {e : ε} {post : Unit → σ → Prop} (hstop : condition = true → stopped e s)
    (hpass : condition = false → post () s) : Ensures (stopIf condition e) s post stopped := by
  cases condition with
  | true => exact hstop rfl
  | false => exact hpass rfl

def rejectIf (condition : Bool) (e : ε) : Except ε Unit :=
  if condition then .error e else .ok ()

@[simp] theorem rejectIf_eq_ok {condition : Bool} {e : ε} {u : Unit} :
    rejectIf condition e = .ok u ↔ condition = false := by
  cases condition <;> simp [rejectIf]

def forEach (xs : List β) (body : β → EStateM ε σ Unit) : EStateM ε σ Unit :=
  match xs with
  | [] => pure ()
  | x :: xs => do
    body x
    forEach xs body

theorem Ensures.forEach {xs : List β} {body : β → EStateM ε σ Unit} (inv : List β → σ → Prop)
    (failed : List β → ε → σ → Prop) (hbody : ∀ passed x rest s, xs = passed ++ x :: rest → inv passed s →
      Ensures (body x) s (fun _ t => inv (passed ++ [x]) t) (failed passed)) (hstart : inv [] s) :
    Ensures (forEach xs body) s (fun _ t => inv xs t)
      (fun e t => ∃ passed x rest, xs = passed ++ x :: rest ∧ failed passed e t) := by
  have hrun : ∀ passed rest s, xs = passed ++ rest → inv passed s → Ensures (ByokGrid.forEach rest body) s
      (fun _ t => inv xs t) (fun e t => ∃ passed x rest, xs = passed ++ x :: rest ∧ failed passed e t) := by
    intro passed rest
    induction rest generalizing passed with
    | nil =>
      intro s hsplit hinv
      rw [List.append_nil] at hsplit
      exact Ensures.pure (hsplit ▸ hinv)
    | cons x rest ih =>
      intro s hsplit hinv
      refine Ensures.bind ((hbody passed x rest s hsplit hinv).mono (fun _ t ht => ?_) fun e t ht => ?_)
      · exact ih (passed ++ [x]) t (by rw [hsplit, List.append_assoc]; rfl) ht
      · exact ⟨passed, x, rest, hsplit, ht⟩
  exact hrun [] xs s rfl hstart

end Programs

end ByokGrid
