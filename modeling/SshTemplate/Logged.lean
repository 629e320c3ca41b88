/-!
# `Logged` — outcomes that leave a trace

Reading a document asks for sources on the way, and resolving a host warns on the way. In both cases
what happened *before* a failure is still part of the answer: the sources asked for, the warnings
given. So a computation is its trace together with its outcome, and a failure ends the trace without
erasing it.

There is no state here to thread. The trace of a composition is the concatenation of the traces
(`bind_of_ok`), which is what makes a statement about a whole trace provable piece by piece.
-/

set_option autoImplicit false

namespace SshTemplate

/-- An outcome and what was noted on the way to it, in order. -/
structure Logged (ω ε : Type) (α : Type) where
  log : List ω
  outcome : Except ε α

namespace Logged

variable {ω ε α β γ : Type}

def pure (a : α) : Logged ω ε α := ⟨[], .ok a⟩

/-- Notes one thing. -/
def note (entry : ω) : Logged ω ε Unit := ⟨[entry], .ok ()⟩

/-- An outcome with nothing to note. -/
def lift (outcome : Except ε α) : Logged ω ε α := ⟨[], outcome⟩

def fail (error : ε) : Logged ω ε α := ⟨[], .error error⟩

/-- Goes on after a success; after a failure nothing more happens. -/
def bind (x : Logged ω ε α) (f : α → Logged ω ε β) : Logged ω ε β :=
  match x.outcome with
  | .error error => ⟨x.log, .error error⟩
  | .ok a => ⟨x.log ++ (f a).log, (f a).outcome⟩

instance : Monad (Logged ω ε) where
  pure := Logged.pure
  bind := Logged.bind

/-- Does `f` for every element, in order, up to the first failure. -/
def forEach (f : α → Logged ω ε β) : List α → Logged ω ε (List β)
  | [] => pure []
  | a :: rest => (f a).bind fun b => (forEach f rest).bind fun bs => pure (b :: bs)

/-! ## The trace of a composition -/

@[simp]
theorem log_pure (a : α) : (pure a : Logged ω ε α).log = [] := rfl

@[simp]
theorem outcome_pure (a : α) : (pure a : Logged ω ε α).outcome = .ok a := rfl

theorem bind_of_ok {x : Logged ω ε α} {a : α} (h : x.outcome = .ok a) (f : α → Logged ω ε β) :
    x.bind f = ⟨x.log ++ (f a).log, (f a).outcome⟩ := by
  unfold bind; rw [h]

theorem bind_of_error {x : Logged ω ε α} {error : ε} (h : x.outcome = .error error)
    (f : α → Logged ω ε β) : x.bind f = ⟨x.log, .error error⟩ := by
  unfold bind; rw [h]

theorem bind_assoc (x : Logged ω ε α) (f : α → Logged ω ε β) (g : β → Logged ω ε γ) :
    (x.bind f).bind g = x.bind fun a => (f a).bind g := by
  unfold bind
  cases x.outcome with
  | error error => rfl
  | ok a =>
    dsimp only
    cases (f a).outcome with
    | error error => rfl
    | ok b => simp only [List.append_assoc]

/-- Whatever is noted by a composition is noted by one of its parts. -/
theorem mem_log_bind {x : Logged ω ε α} {f : α → Logged ω ε β} {entry : ω}
    (h : entry ∈ (x.bind f).log) :
    entry ∈ x.log ∨ ∃ a, x.outcome = .ok a ∧ entry ∈ (f a).log := by
  cases hx : x.outcome with
  | error error =>
    rw [bind_of_error hx] at h
    exact Or.inl h
  | ok a =>
    rw [bind_of_ok hx] at h
    exact (List.mem_append.1 h).imp_right fun h => ⟨a, rfl, h⟩

theorem mem_log_forEach {f : α → Logged ω ε β} {l : List α} {entry : ω}
    (h : entry ∈ (forEach f l).log) : ∃ a ∈ l, entry ∈ (f a).log := by
  induction l with
  | nil => exact absurd h List.not_mem_nil
  | cons first rest ih =>
    rcases mem_log_bind h with h | ⟨b, -, h⟩
    · exact ⟨first, by simp, h⟩
    · rcases mem_log_bind h with h | ⟨bs, -, h⟩
      · obtain ⟨a, ha, hentry⟩ := ih h
        exact ⟨a, List.mem_cons_of_mem _ ha, hentry⟩
      · exact absurd h List.not_mem_nil

theorem forEach_congr {f g : α → Logged ω ε β} {l : List α} (h : ∀ a ∈ l, f a = g a) :
    forEach f l = forEach g l := by
  induction l with
  | nil => rfl
  | cons first rest ih =>
    rw [forEach, forEach, h first (by simp), ih fun a ha => h a (List.mem_cons_of_mem _ ha)]

/-- A composition succeeds if both of its parts do. -/
theorem exists_of_bind_eq_ok {x : Logged ω ε α} {f : α → Logged ω ε β} {b : β}
    (h : (x.bind f).outcome = .ok b) : ∃ a, x.outcome = .ok a ∧ (f a).outcome = .ok b := by
  cases hx : x.outcome with
  | error error => rw [bind_of_error hx] at h; cases h
  | ok a => rw [bind_of_ok hx] at h; exact ⟨a, rfl, h⟩

theorem outcome_bind (x : Logged ω ε α) (f : α → Logged ω ε β) :
    (x.bind f).outcome = x.outcome >>= fun a => (f a).outcome := by
  unfold bind
  cases x.outcome with
  | error error => rfl
  | ok a => rfl

/-- The trace of a success is that of every element, in order. -/
theorem log_forEach {f : α → Logged ω ε β} {l : List α} {bs : List β}
    (h : (forEach f l).outcome = .ok bs) : (forEach f l).log = l.flatMap fun a => (f a).log := by
  induction l generalizing bs with
  | nil => rfl
  | cons first rest ih =>
    obtain ⟨b, hb, hmore⟩ := exists_of_bind_eq_ok h
    obtain ⟨others, hothers, -⟩ := exists_of_bind_eq_ok hmore
    rw [forEach, bind_of_ok hb, bind_of_ok hothers, List.flatMap_cons, ← ih hothers]
    exact congrArg _ (List.append_nil _)

theorem forall_of_forEach_eq_ok {f : α → Logged ω ε β} {l : List α} {bs : List β}
    (h : (forEach f l).outcome = .ok bs) : ∀ a ∈ l, ∃ b, (f a).outcome = .ok b := by
  induction l generalizing bs with
  | nil => intro a ha; exact absurd ha (by simp)
  | cons first rest ih =>
    obtain ⟨b, hb, hmore⟩ := exists_of_bind_eq_ok h
    obtain ⟨others, hothers, -⟩ := exists_of_bind_eq_ok hmore
    intro a ha
    rcases List.mem_cons.1 ha with rfl | ha
    · exact ⟨b, hb⟩
    · exact ih hothers a ha

/-- What `forEach` comes to, if `f` comes to `g` wherever it comes to anything. -/
theorem eq_map_of_forEach_eq_ok {f : α → Logged ω ε β} {g : α → β} {l : List α} {bs : List β}
    (hfg : ∀ a ∈ l, ∀ b, (f a).outcome = .ok b → b = g a)
    (h : (forEach f l).outcome = .ok bs) : bs = l.map g := by
  induction l generalizing bs with
  | nil => cases h; rfl
  | cons first rest ih =>
    obtain ⟨b, hb, hmore⟩ := exists_of_bind_eq_ok h
    obtain ⟨others, hothers, heq⟩ := exists_of_bind_eq_ok hmore
    cases heq
    rw [hfg first (by simp) b hb, ih (fun a ha => hfg a (List.mem_cons_of_mem _ ha)) hothers]
    rfl

theorem outcome_forEach {f : α → Logged ω ε β} {g : α → β} {l : List α}
    (h : ∀ a ∈ l, (f a).outcome = .ok (g a)) : (forEach f l).outcome = .ok (l.map g) := by
  induction l with
  | nil => rfl
  | cons first rest ih =>
    have hrest := ih fun a ha => h a (List.mem_cons_of_mem _ ha)
    rw [forEach, bind_of_ok (h first (by simp)), bind_of_ok hrest]
    rfl

end Logged

/-! ## Outcomes without a trace -/

section Outcome

variable {ε ε' α β : Type}

theorem exists_of_bind_eq_ok {x : Except ε α} {f : α → Except ε β} {b : β}
    (h : x >>= f = .ok b) : ∃ a, x = .ok a ∧ f a = .ok b := by
  cases x with
  | error e => cases h
  | ok a => exact ⟨a, rfl, h⟩

theorem exists_of_map_eq_ok {x : Except ε α} {f : α → β} {b : β} (h : f <$> x = .ok b) :
    ∃ a, x = .ok a ∧ f a = b := by
  cases x with
  | error e => cases h
  | ok a => exact ⟨a, rfl, Except.ok.inj h⟩

theorem map_eq_error_iff {x : Except ε α} {f : α → β} {e : ε} :
    f <$> x = .error e ↔ x = .error e := by
  cases x with
  | error other => exact ⟨fun h => congrArg _ (Except.error.inj h), fun h => by rw [h]; rfl⟩
  | ok a =>
    constructor
    · intro h; cases h
    · intro h; cases h

theorem exists_map_eq_ok_iff {x : Except ε α} {f : α → β} :
    (∃ b, f <$> x = .ok b) ↔ ∃ a, x = .ok a := by
  constructor
  · rintro ⟨b, h⟩
    obtain ⟨a, ha, -⟩ := exists_of_map_eq_ok h
    exact ⟨a, ha⟩
  · rintro ⟨a, rfl⟩
    exact ⟨f a, rfl⟩

theorem mapError_eq_error_iff {f : ε → ε'} {x : Except ε α} {e : ε'} :
    x.mapError f = .error e ↔ ∃ cause, x = .error cause ∧ e = f cause := by
  cases x with
  | error cause =>
    constructor
    · intro h; cases h; exact ⟨cause, rfl, rfl⟩
    · rintro ⟨other, hother, rfl⟩; cases hother; rfl
  | ok a =>
    constructor
    · intro h; cases h
    · rintro ⟨cause, hcause, -⟩; cases hcause

theorem bind_eq_error_iff {x : Except ε α} {f : α → Except ε β} {e : ε} :
    x >>= f = .error e ↔ x = .error e ∨ ∃ a, x = .ok a ∧ f a = .error e := by
  cases x with
  | error other =>
    constructor
    · intro h; exact Or.inl (congrArg _ (Except.error.inj h))
    · rintro (h | ⟨a, ha, -⟩)
      · rw [h]; rfl
      · cases ha
  | ok a =>
    constructor
    · intro h; exact Or.inr ⟨a, rfl, h⟩
    · rintro (h | ⟨b, hb, h⟩)
      · cases h
      · cases hb; exact h

theorem eq_ok_of_mapError {f : ε → ε'} {x : Except ε α} {a : α} (h : x.mapError f = .ok a) :
    x = .ok a := by
  cases x with
  | error e => cases h
  | ok b => cases h; rfl

theorem forall_of_mapM_eq_ok {f : α → Except ε β} {l : List α} {bs : List β}
    (h : l.mapM f = .ok bs) : ∀ a ∈ l, ∃ b, f a = .ok b := by
  induction l generalizing bs with
  | nil => intro a ha; exact absurd ha (by simp)
  | cons first rest ih =>
    rw [List.mapM_cons] at h
    obtain ⟨b, hb, hmore⟩ := exists_of_bind_eq_ok h
    obtain ⟨others, hothers, -⟩ := exists_of_bind_eq_ok hmore
    intro a ha
    rcases List.mem_cons.1 ha with rfl | ha
    · exact ⟨b, hb⟩
    · exact ih hothers a ha

theorem exists_of_mem_of_mapM_eq_ok {f : α → Except ε β} {l : List α} {bs : List β}
    (h : l.mapM f = .ok bs) {b : β} (hb : b ∈ bs) : ∃ a ∈ l, f a = .ok b := by
  induction l generalizing bs with
  | nil => cases h; exact absurd hb (by simp)
  | cons first rest ih =>
    rw [List.mapM_cons] at h
    obtain ⟨c, hc, hmore⟩ := exists_of_bind_eq_ok h
    obtain ⟨others, hothers, heq⟩ := exists_of_bind_eq_ok hmore
    cases heq
    rcases List.mem_cons.1 hb with rfl | hb
    · exact ⟨first, by simp, hc⟩
    · obtain ⟨a, ha, hfa⟩ := ih hothers hb
      exact ⟨a, List.mem_cons_of_mem _ ha, hfa⟩

/-- `mapM` fails where `f` fails first. -/
theorem mapM_eq_error_iff {f : α → Except ε β} {l : List α} {e : ε} :
    l.mapM f = .error e ↔ ∃ before a after, l = before ++ a :: after ∧
      (∀ x ∈ before, ∃ b, f x = .ok b) ∧ f a = .error e := by
  induction l with
  | nil =>
    constructor
    · intro h; cases h
    · rintro ⟨before, a, after, h, -⟩; exact absurd h (by simp)
  | cons first rest ih =>
    rw [List.mapM_cons]
    cases hfirst : f first with
    | error e' =>
      constructor
      · intro h
        cases h
        exact ⟨[], first, rest, rfl, by simp, hfirst⟩
      · rintro ⟨before, a, after, hsplit, hbefore, ha⟩
        rcases before with _ | ⟨x, before⟩
        · obtain ⟨rfl, -⟩ := List.cons.inj hsplit
          rw [hfirst] at ha
          cases ha
          rfl
        · obtain ⟨rfl, -⟩ := List.cons.inj hsplit
          obtain ⟨b, hb⟩ := hbefore first (by simp)
          rw [hfirst] at hb
          cases hb
    | ok b =>
      constructor
      · intro h
        cases hrest : rest.mapM f with
        | ok bs => rw [hrest] at h; cases h
        | error e' =>
          rw [hrest] at h
          cases h
          obtain ⟨before, a, after, rfl, hbefore, ha⟩ := ih.1 hrest
          refine ⟨first :: before, a, after, rfl, ?_, ha⟩
          intro x hx
          rcases List.mem_cons.1 hx with rfl | hx
          · exact ⟨b, hfirst⟩
          · exact hbefore x hx
      · rintro ⟨before, a, after, hsplit, hbefore, ha⟩
        rcases before with _ | ⟨x, before⟩
        · obtain ⟨rfl, -⟩ := List.cons.inj hsplit
          rw [hfirst] at ha
          cases ha
        · obtain ⟨rfl, rfl⟩ := List.cons.inj hsplit
          have hrest := ih.2
            ⟨before, a, after, rfl, fun y hy => hbefore y (List.mem_cons_of_mem _ hy), ha⟩
          rw [hrest]
          rfl

/-- What `mapM` comes to, if `f` comes to `g` wherever it comes to anything. -/
theorem eq_map_of_mapM_eq_ok {f : α → Except ε β} {g : α → β} {l : List α} {bs : List β}
    (hfg : ∀ a ∈ l, ∀ b, f a = .ok b → b = g a) (h : l.mapM f = .ok bs) : bs = l.map g := by
  induction l generalizing bs with
  | nil => cases h; rfl
  | cons first rest ih =>
    rw [List.mapM_cons] at h
    obtain ⟨b, hb, hmore⟩ := exists_of_bind_eq_ok h
    obtain ⟨others, hothers, heq⟩ := exists_of_bind_eq_ok hmore
    cases heq
    rw [hfg first (by simp) b hb, ih (fun a ha => hfg a (List.mem_cons_of_mem _ ha)) hothers]
    rfl

theorem mapM_eq_ok {f : α → Except ε β} {g : α → β} {l : List α} (h : ∀ a ∈ l, f a = .ok (g a)) :
    l.mapM f = .ok (l.map g) := by
  induction l with
  | nil => rfl
  | cons first rest ih =>
    rw [List.mapM_cons, h first (by simp), ih fun a ha => h a (List.mem_cons_of_mem _ ha)]
    rfl

/-- What `forEach` comes to, its trace left out. -/
theorem Logged.outcome_forEach_eq_mapM {ω : Type} (f : α → Logged ω ε β) (l : List α) :
    (Logged.forEach f l).outcome = l.mapM fun a => (f a).outcome := by
  induction l with
  | nil => rfl
  | cons first rest ih =>
    rw [Logged.forEach, List.mapM_cons, ← ih, Logged.outcome_bind]
    simp only [Logged.outcome_bind]
    rfl

end Outcome
end SshTemplate
