import Mathlib.Data.List.Forall2

set_option autoImplicit false

namespace RecordFilter.Outcome

variable {ε α β : Type}

theorem bind_eq_ok_iff {x : Except ε α} {f : α → Except ε β} {b : β} :
    x >>= f = .ok b ↔ ∃ a, x = .ok a ∧ f a = .ok b := by
  cases x with
  | error e => simp [bind, Except.bind]
  | ok a => simp [bind, Except.bind]

theorem map_eq_ok_iff {x : Except ε α} {f : α → β} {b : β} :
    x.map f = .ok b ↔ ∃ a, x = .ok a ∧ f a = b := by
  cases x with
  | error e => simp [Except.map]
  | ok a => simp [Except.map]

theorem bind_eq_error_iff {x : Except ε α} {f : α → Except ε β} {e : ε} :
    x >>= f = .error e ↔ x = .error e ∨ ∃ a, x = .ok a ∧ f a = .error e := by
  cases x with
  | error e' => simp [bind, Except.bind]
  | ok a => simp [bind, Except.bind]

theorem map_eq_error_iff {x : Except ε α} {f : α → β} {e : ε} : x.map f = .error e ↔ x = .error e := by
  cases x with
  | error e' => simp [Except.map]
  | ok a => simp [Except.map]

theorem mapError_bind {δ : Type} {code : ε → δ} {x y : Except ε α} (h : x.mapError code = y.mapError code)
    (f : α → Except ε β) : (x >>= f).mapError code = (y >>= f).mapError code := by
  cases x with
  | error e =>
    cases y with
    | error e' => exact congrArg Except.error (Except.error.inj h)
    | ok b => cases h
  | ok a =>
    cases y with
    | error e' => cases h
    | ok b =>
      cases h
      rfl

theorem ite_error_eq_error_iff {p : Prop} [Decidable p] {e e' : ε} {x : Except ε α} :
    (if p then .error e' else x) = .error e ↔ p ∧ e' = e ∨ ¬ p ∧ x = .error e := by
  by_cases h : p <;> simp [h]

theorem ite_error_eq_ok_iff {p : Prop} [Decidable p] {e : ε} {x : Except ε α} {a : α} :
    (if p then .error e else x) = .ok a ↔ ¬ p ∧ x = .ok a := by
  by_cases h : p <;> simp [h]

theorem ite_bind_eq_ok_iff {p : Prop} [Decidable p] {x y : Except ε α} {f : α → Except ε β} {b : β} :
    (if p then x >>= f else y >>= f) = .ok b ↔ ∃ a, (if p then x else y) = .ok a ∧ f a = .ok b := by
  by_cases h : p
  · rw [if_pos h, if_pos h, bind_eq_ok_iff]
  · rw [if_neg h, if_neg h, bind_eq_ok_iff]

theorem mapM_cons (f : α → Except ε β) (a : α) (as : List α) :
    (a :: as).mapM f = (do let b ← f a; (as.mapM f).map (b :: ·)) := by
  rw [List.mapM_cons]
  rfl

theorem mapM_eq_ok_iff {f : α → Except ε β} {as : List α} {bs : List β} :
    as.mapM f = .ok bs ↔ List.Forall₂ (fun a b => f a = .ok b) as bs := by
  induction as generalizing bs with
  | nil => cases bs <;> simp [pure, Except.pure]
  | cons a as ih =>
    rw [mapM_cons, bind_eq_ok_iff]
    simp only [map_eq_ok_iff, List.forall₂_cons_left_iff, ih]
    constructor
    · rintro ⟨b, hb, bs, hbs, rfl⟩
      exact ⟨b, bs, hb, hbs, rfl⟩
    · rintro ⟨b, bs, hb, hbs, rfl⟩
      exact ⟨b, hb, bs, hbs, rfl⟩

theorem mapM_eq_of_forall₂ {γ : Type} {f : α → Except ε γ} {g : β → Except ε γ} {as : List α} {bs : List β}
    (h : List.Forall₂ (fun a b => f a = g b) as bs) : as.mapM f = bs.mapM g := by
  induction h with
  | nil => rfl
  | cons same _ ih => rw [mapM_cons, mapM_cons, same, ih]

theorem exists_of_forall₂_of_mem {R : α → β → Prop} {as : List α} {bs : List β} (h : List.Forall₂ R as bs) {a : α}
    (ha : a ∈ as) : ∃ b ∈ bs, R a b := by
  induction h with
  | nil => cases ha
  | cons hr _ ih =>
    rcases List.mem_cons.1 ha with rfl | ha
    · exact ⟨_, List.mem_cons_self, hr⟩
    · obtain ⟨b, hb, hab⟩ := ih ha
      exact ⟨b, List.mem_cons_of_mem _ hb, hab⟩

theorem map_eq_of_forall₂ {γ : Type} {f : α → γ} {g : β → γ} {as : List α} {bs : List β}
    (h : List.Forall₂ (fun a b => f a = g b) as bs) : as.map f = bs.map g := by
  rw [← List.forall₂_eq_eq_eq, List.forall₂_map_left_iff, List.forall₂_map_right_iff]
  exact h

theorem any_eq_of_forall₂ {f : α → Bool} {g : β → Bool} {as : List α} {bs : List β}
    (h : List.Forall₂ (fun a b => f a = g b) as bs) : as.any f = bs.any g := by
  have found := congrArg (List.any · id) (map_eq_of_forall₂ h)
  rwa [List.any_map, List.any_map] at found

theorem all_eq_of_forall₂ {f : α → Bool} {g : β → Bool} {as : List α} {bs : List β}
    (h : List.Forall₂ (fun a b => f a = g b) as bs) : as.all f = bs.all g := by
  have found := congrArg (List.all · id) (map_eq_of_forall₂ h)
  rwa [List.all_map, List.all_map] at found

theorem exists_forall₂ {R : α → β → Prop} {as : List α} (h : ∀ a ∈ as, ∃ b, R a b) : ∃ bs, List.Forall₂ R as bs := by
  induction as with
  | nil => exact ⟨[], .nil⟩
  | cons a as ih =>
    rw [List.forall_mem_cons] at h
    obtain ⟨b, hb⟩ := h.1
    obtain ⟨bs, hbs⟩ := ih h.2
    exact ⟨b :: bs, .cons hb hbs⟩

theorem exists_mapM_ok_iff {f : α → Except ε β} {as : List α} :
    (∃ bs, as.mapM f = .ok bs) ↔ ∀ a ∈ as, ∃ b, f a = .ok b := by
  simp only [mapM_eq_ok_iff]
  constructor
  · rintro ⟨bs, h⟩ a ha
    obtain ⟨b, -, hb⟩ := exists_of_forall₂_of_mem h ha
    exact ⟨b, hb⟩
  · exact exists_forall₂

theorem exists_of_mapM_eq_error {f : α → Except ε β} {as : List α} {e : ε} (h : as.mapM f = .error e) :
    ∃ a ∈ as, f a = .error e := by
  induction as with
  | nil => cases h
  | cons a as ih =>
    rw [mapM_cons, bind_eq_error_iff] at h
    rcases h with first | ⟨b, -, later⟩
    · exact ⟨a, List.mem_cons_self, first⟩
    · obtain ⟨a', ha', he⟩ := ih (map_eq_error_iff.1 later)
      exact ⟨a', List.mem_cons_of_mem a ha', he⟩

theorem anyM_cons (f : α → Except ε Bool) (a : α) (as : List α) :
    (a :: as).anyM f = f a >>= fun found => if found then .ok true else as.anyM f := by
  rw [List.anyM]
  congr 1
  funext b
  cases b <;> rfl

theorem any_of_anyM {f : α → Except ε Bool} {g : α → Bool} (agree : ∀ a b, f a = .ok b → g a = b)
    {as : List α} {b : Bool} (h : as.anyM f = .ok b) : as.any g = b := by
  induction as with
  | nil => exact Except.ok.inj h
  | cons a as ih =>
    rw [anyM_cons, bind_eq_ok_iff] at h
    obtain ⟨first, hfirst, rest⟩ := h
    rw [List.any_cons, agree a first hfirst]
    cases first with
    | true => exact Except.ok.inj rest
    | false => exact ih rest

theorem exists_anyM_ok {f : α → Except ε Bool} {as : List α} (h : ∀ a ∈ as, ∃ b, f a = .ok b) :
    ∃ b, as.anyM f = .ok b := by
  induction as with
  | nil => exact ⟨false, rfl⟩
  | cons a as ih =>
    rw [List.forall_mem_cons] at h
    obtain ⟨b, first⟩ := h.1
    rw [anyM_cons, first]
    cases b with
    | true => exact ⟨true, rfl⟩
    | false => exact ih h.2

/-- Whether a computation succeeds, and else its error. -/
def status (x : Except ε α) : Except ε Unit := x.map fun _ => ()

theorem status_map (x : Except ε α) (f : α → β) : status (x.map f) = status x := by
  cases x <;> rfl

theorem status_bind {f : α → Except ε β} {z : Except ε Unit} (h : ∀ a, status (f a) = z) (x : Except ε α) :
    status (x >>= f) = status x >>= fun _ => z := by
  cases x with
  | error e => rfl
  | ok a => exact h a

theorem eq_error_of_status_eq {x : Except ε α} {y : Except ε β} (h : status x = status y) {e : ε}
    (failed : x = .error e) : y = .error e := by
  cases y with
  | error e' =>
    rw [failed] at h
    cases h
    rfl
  | ok b =>
    rw [failed] at h
    cases h

end RecordFilter.Outcome
