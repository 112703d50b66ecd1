import JobShell.Proofs.Monitor

/-!
# Runs of the shell's computations

`Shell.Runs` relates a computation to every way in which it can end, whatever the system answers.
There is one rule for each way of putting computations together, which says what a run is made of.
An `Effect` is what may happen between the beginning and the end of a run, and goes on to happen
when one run follows another; `Within` says that every run of a computation stays within it, and
`Confined` also in which ways a run can fail.
-/

namespace JobShell

namespace Shell

variable {α β : Type} {s s' : Session} {t : Trace} {r : Except Failure α}

/-- If the system answers as the trace says, the computation ends with the result, and in the
second session. -/
abbrev Runs (x : Shell α) (s : Session) (t : Trace) (r : Except Failure α) (s' : Session) : Prop :=
  Program.Runs (x.run s : Program _) t (r, s')

theorem runs_pure {a : α} : Runs (pure a) s t r s' ↔ t = [] ∧ r = .ok a ∧ s' = s := by
  refine Program.runs_done.trans (and_congr_right fun _ => ?_)
  rw [Prod.mk.injEq]

theorem runs_throw {e : Failure} :
    Runs (throw e : Shell α) s t r s' ↔ t = [] ∧ r = .error e ∧ s' = s := by
  refine Program.runs_done.trans (and_congr_right fun _ => ?_)
  rw [Prod.mk.injEq]

theorem runs_fail {e : ShellError} :
    Runs (fail e : Shell α) s t r s' ↔ t = [] ∧ r = .error (.error e) ∧ s' = s :=
  runs_throw

/-- A run of a sequence is a run of its second part behind one of its first, unless the first part
fails, and then it is a run of that. -/
theorem runs_bind {x : Shell β} {f : β → Shell α} :
    Runs (x >>= f) s t r s' ↔
      (∃ b s₁ u v, t = u ++ v ∧ Runs x s u (.ok b) s₁ ∧ Runs (f b) s₁ v r s') ∨
        ∃ e, r = .error e ∧ Runs x s t (.error e) s' := by
  rw [Runs, run_bind, Program.runs_bind]
  constructor
  · rintro ⟨⟨e | b, s₁⟩, u, v, rfl, hu, hv⟩
    · obtain ⟨rfl, h⟩ := Program.runs_done.1 hv
      cases h
      rw [List.append_nil]
      exact .inr ⟨e, rfl, hu⟩
    · exact .inl ⟨b, s₁, u, v, rfl, hu, hv⟩
  · rintro (⟨b, s₁, u, v, rfl, hu, hv⟩ | ⟨e, rfl, h⟩)
    · exact ⟨(.ok b, s₁), u, v, rfl, hu, hv⟩
    · exact ⟨(.error e, s'), t, [], (List.append_nil t).symm, h, .done _⟩

theorem runs_bind_ok {x : Shell β} {f : β → Shell α} {a : α} :
    Runs (x >>= f) s t (.ok a) s' ↔
      ∃ b s₁ u v, t = u ++ v ∧ Runs x s u (.ok b) s₁ ∧ Runs (f b) s₁ v (.ok a) s' :=
  runs_bind.trans (or_iff_left fun ⟨_, h, _⟩ => nomatch h)

theorem runs_ask_bind {c : Call} {f : c.Answer → Shell α} :
    Runs (ask c >>= f) s t r s' ↔ ∃ answer u, t = ⟨c, answer⟩ :: u ∧ Runs (f answer) s u r s' := by
  rw [Runs, run_ask_bind]
  exact Program.runs_call

theorem runs_ask_cons {c : Call} {answer : c.Answer} {f : c.Answer → Shell α} :
    Runs (ask c >>= f) s (⟨c, answer⟩ :: t) r s' ↔ Runs (f answer) s t r s' := by
  rw [runs_ask_bind]
  constructor
  · rintro ⟨_, _, ⟨⟩, h⟩
    exact h
  · exact fun h => ⟨answer, t, rfl, h⟩

theorem runs_ask {c : Call} {r : Except Failure c.Answer} :
    Runs (ask c) s t r s' ↔ ∃ answer, t = [⟨c, answer⟩] ∧ r = .ok answer ∧ s' = s := by
  rw [← bind_pure (ask c), runs_ask_bind]
  refine exists_congr fun answer => ?_
  constructor
  · rintro ⟨u, rfl, h⟩
    obtain ⟨rfl, hresult, hsession⟩ := runs_pure.1 h
    exact ⟨rfl, hresult, hsession⟩
  · rintro ⟨rfl, h⟩
    exact ⟨[], rfl, runs_pure.2 ⟨rfl, h⟩⟩

theorem runs_log_bind {e : Log.Event} {f : Unit → Shell α} :
    Runs (log e >>= f) s t r s' ↔ ∃ u, t = ⟨.log e, ()⟩ :: u ∧ Runs (f ()) s u r s' := by
  rw [log, runs_ask_bind]
  exact ⟨fun ⟨_, h⟩ => h, fun h => ⟨(), h⟩⟩

theorem runs_get {r : Except Failure Session} :
    Runs get s t r s' ↔ t = [] ∧ r = .ok s ∧ s' = s := by
  refine Program.runs_done.trans (and_congr_right fun _ => ?_)
  rw [Prod.mk.injEq]

theorem runs_get_bind {f : Session → Shell α} :
    Runs (get >>= f) s t r s' ↔ Runs (f s) s t r s' := Iff.rfl

theorem runs_modify_bind {g : Session → Session} {f : PUnit → Shell α} :
    Runs (modify g >>= f) s t r s' ↔ Runs (f ⟨⟩) (g s) t r s' := Iff.rfl

theorem runs_modifyTable_bind {g : Table → Table} {f : PUnit → Shell α} :
    Runs (modifyTable g >>= f) s t r s' ↔ Runs (f ⟨⟩) { s with table := g s.table } t r s' :=
  Iff.rfl

theorem runs_modifyTable {g : Table → Table} {r : Except Failure Unit} :
    Runs (modifyTable g) s t r s' ↔ t = [] ∧ r = .ok () ∧ s' = { s with table := g s.table } := by
  refine Program.runs_done.trans (and_congr_right fun _ => ?_)
  rw [Prod.mk.injEq]

/-! ## Failures that are caught -/

theorem runs_tryCatch {x : Shell α} {handle : Failure → Shell α} :
    Runs (tryCatch x handle) s t r s' ↔
      (∃ a, r = .ok a ∧ Runs x s t (.ok a) s') ∨
        ∃ e s₁ u v, t = u ++ v ∧ Runs x s u (.error e) s₁ ∧ Runs (handle e) s₁ v r s' := by
  change Program.Runs ((x.run s : Program _) >>= _) t (r, s') ↔ _
  rw [Program.runs_bind]
  constructor
  · rintro ⟨⟨e | a, s₁⟩, u, v, rfl, hu, hv⟩
    · exact .inr ⟨e, s₁, u, v, rfl, hu, hv⟩
    · obtain ⟨rfl, h⟩ := Program.runs_done.1 hv
      cases h
      rw [List.append_nil]
      exact .inl ⟨a, rfl, hu⟩
  · rintro (⟨a, rfl, h⟩ | ⟨e, s₁, u, v, rfl, hu, hv⟩)
    · exact ⟨(.ok a, s'), t, [], (List.append_nil t).symm, h, .done _⟩
    · exact ⟨(.error e, s₁), u, v, rfl, hu, hv⟩

/-- A computation is tried, and what is made of its value cannot fail. It either has a value and
goes on with that, or it fails and goes on with the handler. -/
theorem runs_try {β γ : Type} {x : Shell β} {f : β → Shell γ} {handle : Failure → Shell γ}
    {k : γ → Shell α} (hf : ∀ b, ∃ c, f b = pure c) :
    Runs (tryCatch (x >>= f) handle >>= k) s t r s' ↔
      (∃ b s₁ u v, t = u ++ v ∧ Runs x s u (.ok b) s₁ ∧ Runs (f b >>= k) s₁ v r s') ∨
        ∃ e s₁ u v, t = u ++ v ∧ Runs x s u (.error e) s₁ ∧
          Runs (handle e >>= k) s₁ v r s' := by
  -- Only `x` can fail inside of the `try`.
  have hfails : ∀ {u e s₁}, Runs (x >>= f) s u (.error e) s₁ ↔ Runs x s u (.error e) s₁ := by
    intro u e s₁
    constructor
    · intro h
      rcases runs_bind.1 h with ⟨b, s₂, v, w, rfl, -, hw⟩ | ⟨_, ⟨⟩, h⟩
      · obtain ⟨c, hc⟩ := hf b
        rw [hc] at hw
        obtain ⟨-, ⟨⟩, -⟩ := runs_pure.1 hw
      · exact h
    · exact fun h => runs_bind.2 (.inr ⟨e, rfl, h⟩)
  constructor
  · intro h
    rcases runs_bind.1 h with ⟨c, s₁, u, v, rfl, hu, hv⟩ | ⟨e, rfl, hu⟩
    · rcases runs_tryCatch.1 hu with ⟨_, ⟨⟩, hu⟩ | ⟨e, s₂, u, w, rfl, hu, hw⟩
      · obtain ⟨b, s₂, u, w, rfl, hu, hw⟩ := runs_bind_ok.1 hu
        exact .inl ⟨b, s₂, u, w ++ v, List.append_assoc .., hu,
          runs_bind.2 (.inl ⟨c, s₁, w, v, rfl, hw, hv⟩)⟩
      · exact .inr ⟨e, s₂, u, w ++ v, List.append_assoc .., hfails.1 hu,
          runs_bind.2 (.inl ⟨c, s₁, w, v, rfl, hw, hv⟩)⟩
    · rcases runs_tryCatch.1 hu with ⟨_, ⟨⟩, -⟩ | ⟨e', s₁, u, v, rfl, hu, hv⟩
      exact .inr ⟨e', s₁, u, v, rfl, hfails.1 hu, runs_bind.2 (.inr ⟨e, rfl, hv⟩)⟩
  · rintro (⟨b, s₁, u, v, rfl, hu, hv⟩ | ⟨e, s₁, u, v, rfl, hu, hv⟩)
    · obtain ⟨c, hc⟩ := hf b
      rw [hc, pure_bind] at hv
      have hvalue := runs_bind_ok.2 ⟨b, s₁, u, [], rfl, hu, hc ▸ runs_pure.2 ⟨rfl, rfl, rfl⟩⟩
      rw [List.append_nil] at hvalue
      exact runs_bind.2 (.inl ⟨c, s₁, u, v, rfl, runs_tryCatch.2 (.inl ⟨c, rfl, hvalue⟩), hv⟩)
    · have hcaught : ∀ {w q s₂}, Runs (handle e) s₁ w q s₂ →
          Runs (tryCatch (x >>= f) handle) s (u ++ w) q s₂ := fun hw =>
        runs_tryCatch.2 (.inr ⟨e, s₁, u, _, rfl, hfails.2 hu, hw⟩)
      rcases runs_bind.1 hv with ⟨c, s₂, w, x, rfl, hw, hx⟩ | ⟨e', rfl, hw⟩
      · exact runs_bind.2
          (.inl ⟨c, s₂, u ++ w, x, (List.append_assoc ..).symm, hcaught hw, hx⟩)
      · exact runs_bind.2 (.inr ⟨e', rfl, hcaught hw⟩)

/-! ## Effects -/

/-- What may happen in a run: a relation between the session before it, its trace and the session
after it. -/
structure Effect where
  Allows : Session → Trace → Session → Prop
  refl : ∀ s, Allows s [] s
  trans : ∀ {s₁ s₂ s₃ t u}, Allows s₁ t s₂ → Allows s₂ u s₃ → Allows s₁ (t ++ u) s₃

/-- Every run of a computation stays within an effect. -/
def Within (E : Effect) (x : Shell α) : Prop :=
  ∀ ⦃s t r s'⦄, Runs x s t r s' → E.Allows s t s'

namespace Within

variable {E : Effect}

theorem pure (a : α) : Within E (Pure.pure a) := by
  intro s t r s' h
  obtain ⟨rfl, rfl, rfl⟩ := runs_pure.1 h
  exact E.refl s'

theorem throw (e : Failure) : Within E (MonadExcept.throw e : Shell α) := by
  intro s t r s' h
  obtain ⟨rfl, rfl, rfl⟩ := runs_throw.1 h
  exact E.refl s'

theorem fail (e : ShellError) : Within E (Shell.fail e : Shell α) := throw _

theorem bind {x : Shell α} {f : α → Shell β} (hx : Within E x) (hf : ∀ a, Within E (f a)) :
    Within E (x >>= f) := by
  intro s t r s' h
  rcases runs_bind.1 h with ⟨a, s₁, u, v, rfl, hu, hv⟩ | ⟨e, rfl, ht⟩
  · exact E.trans (hx hu) (hf a hv)
  · exact hx ht

theorem get : Within E (MonadState.get : Shell Session) := by
  intro s t r s' h
  obtain ⟨rfl, rfl, rfl⟩ := runs_get.1 h
  exact E.refl s'

theorem ask {c : Call} (h : ∀ s answer, E.Allows s [⟨c, answer⟩] s) : Within E (Shell.ask c) := by
  intro s t r s' hruns
  obtain ⟨answer, rfl, rfl, rfl⟩ := runs_ask.1 hruns
  exact h s' answer

theorem modifyTable {g : Table → Table} (h : ∀ s, E.Allows s [] { s with table := g s.table }) :
    Within E (Shell.modifyTable g) := by
  intro s t r s' hruns
  obtain ⟨rfl, rfl, rfl⟩ := runs_modifyTable.1 hruns
  exact h s

theorem mono {E' : Effect} {x : Shell α} (hx : Within E x)
    (h : ∀ {s t s'}, E.Allows s t s' → E'.Allows s t s') : Within E' x :=
  fun _ _ _ _ hruns => h (hx hruns)

end Within

/-! ## Failures -/

/-- A failure is the same whatever value was to be computed. -/
theorem error_ne_stuck {e : Failure} (h : (.error e : Except Failure α) ≠ .error .stuck) :
    (.error e : Except Failure β) ≠ .error .stuck :=
  fun he => h (congrArg _ (Except.error.inj he))

/-- A computation that comes to an end has a value. -/
def Unfailing (x : Shell α) : Prop := ∀ ⦃s t e s'⦄, Runs x s t (.error e) s' → e = .stuck

/-- Every run of a computation stays within an effect, and fails in no other way than `F` says. -/
structure Confined (E : Effect) (F : Failure → Prop) (x : Shell α) : Prop where
  within : Within E x
  failure : ∀ ⦃s t e s'⦄, Runs x s t (.error e) s' → F e

namespace Confined

variable {E : Effect} {F : Failure → Prop}

theorem pure (a : α) : Confined E F (Pure.pure a) where
  within := .pure a
  failure := by
    intro s t e s' h
    obtain ⟨-, ⟨⟩, -⟩ := runs_pure.1 h

theorem throw {e : Failure} (he : F e) : Confined E F (MonadExcept.throw e : Shell α) where
  within := .throw e
  failure := by
    intro s t e' s' h
    obtain ⟨-, ⟨⟩, -⟩ := runs_throw.1 h
    exact he

theorem fail {e : ShellError} (he : F (.error e)) : Confined E F (Shell.fail e : Shell α) :=
  .throw he

theorem bind {x : Shell α} {f : α → Shell β} (hx : Confined E F x) (hf : ∀ a, Confined E F (f a)) :
    Confined E F (x >>= f) where
  within := .bind hx.within fun a => (hf a).within
  failure := by
    intro s t e s' h
    rcases runs_bind.1 h with ⟨a, s₁, u, v, -, -, hv⟩ | ⟨_, ⟨⟩, ht⟩
    · exact (hf a).failure hv
    · exact hx.failure ht

theorem get : Confined E F (MonadState.get : Shell Session) where
  within := .get
  failure := by
    intro s t e s' h
    obtain ⟨-, ⟨⟩, -⟩ := runs_get.1 h

theorem ask {c : Call} (h : ∀ s answer, E.Allows s [⟨c, answer⟩] s) :
    Confined E F (Shell.ask c) where
  within := .ask h
  failure := by
    intro s t e s' hruns
    obtain ⟨_, -, ⟨⟩, -⟩ := runs_ask.1 hruns

theorem modifyTable {g : Table → Table} (h : ∀ s, E.Allows s [] { s with table := g s.table }) :
    Confined E F (Shell.modifyTable g) where
  within := .modifyTable h
  failure := by
    intro s t e s' hruns
    obtain ⟨-, ⟨⟩, -⟩ := runs_modifyTable.1 hruns

theorem forIn {γ : Type} {f : γ → β → Shell (ForInStep β)} (hf : ∀ c b, Confined E F (f c b))
    (cs : List γ) (b : β) : Confined E F (ForIn.forIn cs b f) := by
  induction cs generalizing b with
  | nil => exact .pure b
  | cons c cs ih =>
    rw [List.forIn_cons]
    refine .bind (hf c b) fun step => ?_
    cases step with
    | done b => exact .pure b
    | yield b => exact ih b

theorem forM {γ : Type} {f : γ → Shell Unit} (hf : ∀ c, Confined E F (f c)) (cs : List γ) :
    Confined E F (cs.forM f) := by
  induction cs with
  | nil => exact .pure _
  | cons c cs ih => exact .bind (hf c) fun _ => ih

theorem mono {E' : Effect} {F' : Failure → Prop} {x : Shell α} (hx : Confined E F x)
    (hE : ∀ {s t s'}, E.Allows s t s' → E'.Allows s t s') (hF : ∀ e, F e → F' e) :
    Confined E' F' x :=
  ⟨hx.within.mono hE, fun _ _ _ _ h => hF _ (hx.failure h)⟩

end Confined

end Shell

end JobShell
