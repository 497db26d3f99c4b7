import Mathlib
import PagedQuery.Error

/-!
# Outcomes

Computations that can fail, compared by what comes of them, and walks through lists that can fail.

* `SameOutcome`: two outcomes are the same failure, or results that stand in a relation;
* `ok_bind`, `bind_eq_ok`, `map_eq_ok`, `bind_eq_error`, `map_eq_error`: what a computation made of
  two succeeds with, and how it fails;
* `exists_eq_ok_iff`: a computation succeeds or fails;
* `mapM_eq_ok`, `exists_mapM_eq_ok`, `exists_mapM_iff`: a walk succeeds if each of its steps does;
* `mapM_map_eq`: a walk through a list that is made of another;
* `mapM_eq_ok_iff`, `mapM_eq_error_iff`: what a walk succeeds with, and the step at which it fails;
* `mapM_eq_some_iff`: the same of steps that may have no result;
* `SameOutcome.mapM`: walks whose steps have the same outcomes have the same outcome.
-/

namespace PagedQuery

variable {α β γ δ : Type}

/-- Two outcomes that are the same failure, or results that stand in a relation. -/
inductive SameOutcome (R : α → β → Prop) : Except Error α → Except Error β → Prop
  | error (e : Error) : SameOutcome R (.error e) (.error e)
  | ok {a : α} {b : β} : R a b → SameOutcome R (.ok a) (.ok b)

namespace SameOutcome

theorem bind {R : α → β → Prop} {S : γ → δ → Prop} {x : Except Error α} {y : Except Error β}
    {f : α → Except Error γ} {g : β → Except Error δ} (h : SameOutcome R x y)
    (hfg : ∀ a b, R a b → SameOutcome S (f a) (g b)) : SameOutcome S (x >>= f) (y >>= g) := by
  cases h with
  | error e => exact .error e
  | ok hab => exact hfg _ _ hab

theorem imp {R S : α → β → Prop} {x : Except Error α} {y : Except Error β} (h : SameOutcome R x y)
    (hRS : ∀ a b, R a b → S a b) : SameOutcome S x y := by
  cases h with
  | error e => exact .error e
  | ok hab => exact .ok (hRS _ _ hab)

/-- What is the same of related results is the same of the outcomes. -/
theorem map_eq {R : α → β → Prop} {x : Except Error α} {y : Except Error β} {f : α → γ} {g : β → γ}
    (h : SameOutcome R x y) (hfg : ∀ a b, R a b → f a = g b) : x.map f = y.map g := by
  cases h with
  | error e => rfl
  | ok hab => exact congrArg Except.ok (hfg _ _ hab)

theorem of_eq (x : Except Error α) : SameOutcome Eq x x := by
  cases x with
  | error e => exact .error e
  | ok a => exact .ok rfl

/-- Two computations that begin alike have the same outcome if they have it after the beginning. -/
theorem bind_self {S : γ → δ → Prop} {x : Except Error α} {f : α → Except Error γ}
    {g : α → Except Error δ} (h : ∀ a, x = .ok a → SameOutcome S (f a) (g a)) :
    SameOutcome S (x >>= f) (x >>= g) := by
  cases x with
  | error e => exact .error e
  | ok a => exact h a rfl

theorem eq {x y : Except Error α} (h : SameOutcome Eq x y) : x = y := by
  cases h with
  | error e => rfl
  | ok hab => rw [hab]

end SameOutcome

theorem ok_bind (a : α) (f : α → Except Error β) : (Except.ok a >>= f) = f a := rfl

theorem bind_eq_ok {x : Except Error α} {f : α → Except Error β} {b : β} :
    x >>= f = .ok b ↔ ∃ a, x = .ok a ∧ f a = .ok b := by
  cases x with
  | error e => exact ⟨nofun, nofun⟩
  | ok a =>
    refine ⟨fun h => ⟨a, rfl, h⟩, ?_⟩
    rintro ⟨_, ⟨⟩, h⟩
    exact h

theorem map_eq_ok {x : Except Error α} {f : α → β} {b : β} :
    x.map f = .ok b ↔ ∃ a, x = .ok a ∧ f a = b := by
  cases x with
  | error e => exact ⟨nofun, nofun⟩
  | ok a =>
    refine ⟨fun h => ⟨a, rfl, Except.ok.inj h⟩, ?_⟩
    rintro ⟨_, ⟨⟩, h⟩
    exact congrArg Except.ok h

theorem bind_eq_error {x : Except Error α} {f : α → Except Error β} {e : Error} :
    x >>= f = .error e ↔ x = .error e ∨ ∃ a, x = .ok a ∧ f a = .error e := by
  cases x with
  | error e' =>
    refine ⟨fun h => .inl (congrArg _ (Except.error.inj h)), ?_⟩
    rintro (heq | ⟨_, heq, -⟩) <;> cases heq
    rfl
  | ok a =>
    refine ⟨fun h => .inr ⟨a, rfl, h⟩, ?_⟩
    rintro (heq | ⟨_, heq, h⟩) <;> cases heq
    exact h

theorem map_eq_error {x : Except Error α} {f : α → β} {e : Error} :
    x.map f = .error e ↔ x = .error e := by
  cases x with
  | error e' => exact ⟨fun h => congrArg _ (Except.error.inj h), congrArg (Except.map f)⟩
  | ok a => exact ⟨nofun, nofun⟩

theorem exists_eq_ok_iff {x : Except Error α} : (∃ a, x = .ok a) ↔ ¬∃ e, x = .error e := by
  cases x with
  | error e => exact iff_of_false nofun (not_not_intro ⟨e, rfl⟩)
  | ok a => exact iff_of_true ⟨a, rfl⟩ nofun

theorem mapM_eq_ok {f : α → Except Error β} {g : α → β} {l : List α}
    (h : ∀ a ∈ l, f a = .ok (g a)) : l.mapM f = .ok (l.map g) := by
  induction l with
  | nil => rfl
  | cons a l ih =>
    rw [List.mapM_cons, h a List.mem_cons_self, ih fun b hb => h b (List.mem_cons_of_mem a hb)]
    rfl

/-- A walk through what is made of a list is a walk through the list. -/
theorem mapM_map_eq {f : α → β} {g : β → Except Error γ} {k : α → Except Error γ} {l : List α}
    (h : ∀ a ∈ l, g (f a) = k a) : (l.map f).mapM g = l.mapM k := by
  induction l with
  | nil => rfl
  | cons a l ih =>
    rw [List.map_cons, List.mapM_cons, List.mapM_cons, h a List.mem_cons_self,
      ih fun b hb => h b (List.mem_cons_of_mem a hb)]

theorem exists_mapM_eq_ok {R : α → β → Prop} {f : α → Except Error β} {l : List α}
    (h : ∀ a ∈ l, ∃ b, f a = .ok b ∧ R a b) : ∃ bs, l.mapM f = .ok bs ∧ List.Forall₂ R l bs := by
  induction l with
  | nil => exact ⟨[], rfl, .nil⟩
  | cons a l ih =>
    obtain ⟨b, hb, hab⟩ := h a List.mem_cons_self
    obtain ⟨bs, hbs, hall⟩ := ih fun c hc => h c (List.mem_cons_of_mem a hc)
    refine ⟨b :: bs, ?_, .cons hab hall⟩
    rw [List.mapM_cons, hb, hbs]
    rfl

theorem mapM_eq_ok_iff {f : α → Except Error β} {l : List α} {bs : List β} :
    l.mapM f = .ok bs ↔ List.Forall₂ (fun a b => f a = .ok b) l bs := by
  constructor
  · intro h
    induction l generalizing bs with
    | nil =>
      cases h
      exact .nil
    | cons a l ih =>
      rw [List.mapM_cons] at h
      obtain ⟨b, hb, h⟩ := bind_eq_ok.1 h
      obtain ⟨rest, hrest, h⟩ := bind_eq_ok.1 h
      cases h
      exact .cons hb (ih hrest)
  · intro h
    induction h with
    | nil => rfl
    | cons hb _ ih =>
      rw [List.mapM_cons, hb, ih]
      rfl

/-- A walk in which each step may have no result. -/
theorem mapM_eq_some_iff {f : α → Option β} {l : List α} {bs : List β} :
    l.mapM f = some bs ↔ List.Forall₂ (fun a b => f a = some b) l bs := by
  constructor
  · intro h
    induction l generalizing bs with
    | nil =>
      cases h
      exact .nil
    | cons a l ih =>
      rw [List.mapM_cons] at h
      obtain ⟨b, hb, h⟩ := Option.bind_eq_some_iff.1 h
      obtain ⟨rest, hrest, h⟩ := Option.bind_eq_some_iff.1 h
      cases h
      exact .cons hb (ih hrest)
  · intro h
    induction h with
    | nil => rfl
    | cons hb _ ih =>
      rw [List.mapM_cons, hb, ih]
      rfl

theorem exists_of_mem_right {R : α → β → Prop} {l : List α} {m : List β} (h : List.Forall₂ R l m)
    {b : β} (hb : b ∈ m) : ∃ a ∈ l, R a b := by
  induction h with
  | nil => cases hb
  | @cons a b' l m hab _ ih =>
    rcases List.mem_cons.1 hb with rfl | hb
    · exact ⟨a, List.mem_cons_self, hab⟩
    · obtain ⟨a', ha', hab'⟩ := ih hb
      exact ⟨a', List.mem_cons_of_mem a ha', hab'⟩

/-- A walk succeeds exactly if each of its steps does. -/
theorem exists_mapM_iff {f : α → Except Error β} {l : List α} :
    (∃ bs, l.mapM f = .ok bs) ↔ ∀ a ∈ l, ∃ b, f a = .ok b := by
  constructor
  · rintro ⟨bs, hbs⟩ a ha
    obtain ⟨b, -, hb⟩ := exists_of_mem_right (mapM_eq_ok_iff.1 hbs).flip ha
    exact ⟨b, hb⟩
  · intro h
    obtain ⟨bs, hbs, -⟩ := exists_mapM_eq_ok (R := fun _ _ => True)
      fun a ha => (h a ha).imp fun _ hb => ⟨hb, trivial⟩
    exact ⟨bs, hbs⟩

/-- A walk fails at the first step that does. -/
theorem mapM_eq_error_iff {f : α → Except Error β} {l : List α} {e : Error} :
    l.mapM f = .error e ↔ ∃ before a rest, l = before ++ a :: rest ∧
      (∀ b ∈ before, ∃ c, f b = .ok c) ∧ f a = .error e := by
  constructor
  · intro h
    induction l with
    | nil => cases h
    | cons a l ih =>
      rw [List.mapM_cons] at h
      rcases bind_eq_error.1 h with hfirst | ⟨b, hb, h⟩
      · exact ⟨[], a, l, rfl, nofun, hfirst⟩
      · have hrest : l.mapM f = .error e :=
          (bind_eq_error.1 h).resolve_right (by rintro ⟨_, -, ⟨⟩⟩)
        obtain ⟨before, c, rest, rfl, hbefore, hc⟩ := ih hrest
        exact ⟨a :: before, c, rest, rfl, List.forall_mem_cons.2 ⟨⟨b, hb⟩, hbefore⟩, hc⟩
  · rintro ⟨before, a, rest, rfl, hbefore, ha⟩
    obtain ⟨bs, hbs⟩ := exists_mapM_iff.2 hbefore
    rw [List.mapM_append, hbs, ok_bind, List.mapM_cons, ha]
    rfl

/-- Walks whose steps have the same outcomes, one by one, have the same outcome. -/
theorem SameOutcome.mapM {R : γ → δ → Prop} {f : α → Except Error γ} {g : β → Except Error δ}
    {l : List α} {m : List β} (h : List.Forall₂ (fun a b => SameOutcome R (f a) (g b)) l m) :
    SameOutcome (List.Forall₂ R) (l.mapM f) (m.mapM g) := by
  induction h with
  | nil => exact .ok .nil
  | cons hab _ ih =>
    rw [List.mapM_cons, List.mapM_cons]
    exact hab.bind fun _ _ hcd => ih.bind fun _ _ hrest => .ok (.cons hcd hrest)

end PagedQuery
