import JobShell.Shell
import JobShell.System.Trace

/-!
# Watching a program

A monitor watches what a program and the system say to each other. It keeps a state of its own,
says which calls the program may make in that state, and which answers it expects of the system.
`Program.Ensures` says that the program makes only calls that are permitted and ends with a trace
and a value that meet a postcondition, as long as the system answers as expected;
`Ensures.of_leads` carries this over to every trace, also to one that stops before the program is
done. `Shell.Ensures` is the same for the computations of the shell, with one rule for each way of
putting them together.
-/

namespace JobShell

/-- Somebody who watches calls and answers and draws conclusions. -/
structure Monitor (G : Type) where
  /-- The calls that the program may make. -/
  permits : G → Call → Prop
  /-- The answers that the system may give. -/
  admits : G → (c : Call) → c.Answer → Prop
  /-- What is known when a call has been answered. -/
  step : G → (c : Call) → c.Answer → G

namespace Monitor

variable {G : Type} (M : Monitor G)

/-- What is known at the end of a trace. -/
def after : G → Trace → G
  | g, [] => g
  | g, e :: t => after (M.step g e.call e.answer) t

/-- Every answer in a trace is one that the system may give. -/
def Lawful : G → Trace → Prop
  | _, [] => True
  | g, e :: t => M.admits g e.call e.answer ∧ Lawful (M.step g e.call e.answer) t

/-- Every call in a trace is one that the program may make. -/
def Permitted : G → Trace → Prop
  | _, [] => True
  | g, e :: t => M.permits g e.call ∧ Permitted (M.step g e.call e.answer) t

@[simp] theorem after_append (g : G) (t u : Trace) :
    M.after g (t ++ u) = M.after (M.after g t) u := by
  induction t generalizing g with
  | nil => rfl
  | cons e t ih => exact ih _

@[simp] theorem lawful_append (g : G) (t u : Trace) :
    M.Lawful g (t ++ u) ↔ M.Lawful g t ∧ M.Lawful (M.after g t) u := by
  induction t generalizing g with
  | nil => simp [Lawful, after]
  | cons e t ih =>
    rw [List.cons_append, Lawful, Lawful, ih, and_assoc]
    rfl

@[simp] theorem permitted_append (g : G) (t u : Trace) :
    M.Permitted g (t ++ u) ↔ M.Permitted g t ∧ M.Permitted (M.after g t) u := by
  induction t generalizing g with
  | nil => simp [Permitted, after]
  | cons e t ih =>
    rw [List.cons_append, Permitted, Permitted, ih, and_assoc]
    rfl

end Monitor

/-! ## Programs -/

namespace Program

variable {G α β : Type} {M : Monitor G}

/-- If the system answers as the trace says, then `q` is what is left of `p` at its end. -/
inductive Leads : Program α → Trace → Program α → Prop where
  | refl (p : Program α) : Leads p [] p
  | call {c : Call} {next : c.Answer → Program α} (answer : c.Answer) {t : Trace} {q : Program α}
      (rest : Leads (next answer) t q) : Leads (call c next) (⟨c, answer⟩ :: t) q

theorem leads_done_iff {p : Program α} {t : Trace} {a : α} :
    p.Leads t (done a) ↔ p.Runs t a := by
  constructor
  · intro h
    generalize hq : done a = q at h
    induction h with
    | refl p =>
      subst hq
      exact .done a
    | call answer rest ih => exact .call answer (ih hq)
  · intro h
    induction h with
    | done a => exact .refl _
    | call answer rest ih => exact .call answer ih

/-- Whatever the system answers that it may, `p` makes only calls that are permitted, and at its
end `Q` holds of what is known, of the trace and of the value. -/
def Ensures (M : Monitor G) : (G → Trace → α → Prop) → Program α → G → Prop
  | Q, done a, g => Q g [] a
  | Q, call c next, g =>
    M.permits g c ∧ ∀ answer, M.admits g c answer →
      Ensures M (fun g t => Q g (⟨c, answer⟩ :: t)) (next answer) (M.step g c answer)

theorem ensures_bind {p : Program α} {f : α → Program β} {Q : G → Trace → β → Prop} {g : G} :
    Ensures M Q (p >>= f) g ↔
      Ensures M (fun g t a => Ensures M (fun g u => Q g (t ++ u)) (f a) g) p g := by
  induction p generalizing g Q with
  | done a => rfl
  | call c next ih =>
    rw [call_bind, Ensures, Ensures]
    exact and_congr_right fun _ => forall_congr' fun answer => imp_congr_right fun _ => ih answer

theorem Ensures.mono {p : Program α} {Q R : G → Trace → α → Prop} {g : G} (h : Ensures M Q p g)
    (himp : ∀ g t a, Q g t a → R g t a) : Ensures M R p g := by
  induction p generalizing g Q R with
  | done a => exact himp g [] a h
  | call c next ih =>
    exact ⟨h.1, fun answer hanswer => ih answer (h.2 answer hanswer) fun g t => himp g _⟩

/-- What is left of a program ensures what the whole program did. -/
theorem Ensures.of_leads {p q : Program α} {Q : G → Trace → α → Prop} {g : G} {t : Trace}
    (h : Ensures M Q p g) (hleads : p.Leads t q) (hlawful : M.Lawful g t) :
    Ensures M (fun g u => Q g (t ++ u)) q (M.after g t) := by
  induction hleads generalizing g Q with
  | refl p => exact h
  | call answer rest ih => exact ih (h.2 answer hlawful.1) hlawful.2

theorem Ensures.permitted {p q : Program α} {Q : G → Trace → α → Prop} {g : G} {t : Trace}
    (h : Ensures M Q p g) (hleads : p.Leads t q) (hlawful : M.Lawful g t) :
    M.Permitted g t := by
  induction hleads generalizing g Q with
  | refl p => trivial
  | call answer rest ih => exact ⟨h.1, ih (h.2 answer hlawful.1) hlawful.2⟩

theorem Ensures.of_runs {p : Program α} {Q : G → Trace → α → Prop} {g : G} {t : Trace} {a : α}
    (h : Ensures M Q p g) (hruns : p.Runs t a) (hlawful : M.Lawful g t) :
    Q (M.after g t) t a := by
  have hend := h.of_leads (leads_done_iff.2 hruns) hlawful
  rw [Ensures, List.append_nil] at hend
  exact hend

end Program

/-! ## Computations of the shell -/

namespace Shell

variable {G α β : Type} {M : Monitor G}

/-- `Program.Ensures` for a computation that starts in a session: `Q` is about what is known at
the end, the session then, the trace, and the value or failure. A shell that is stuck has not come to an
end, so nothing is asked of it then. -/
def Ensures (M : Monitor G) (Q : G → Session → Trace → Except Failure α → Prop) (x : Shell α)
    (g : G) (s : Session) : Prop :=
  Program.Ensures M (fun g t r => r.1 ≠ .error .stuck → Q g r.2 t r.1) (x.run s : Program _) g

variable {Q : G → Session → Trace → Except Failure α → Prop} {g : G} {s : Session}

@[simp] theorem ensures_pure (a : α) : Ensures M Q (pure a) g s ↔ Q g s [] (.ok a) :=
  forall_prop_of_true nofun

@[simp] theorem ensures_throw (e : Failure) :
    Ensures M Q (throw e : Shell α) g s ↔ (e ≠ .stuck → Q g s [] (.error e)) :=
  imp_congr_left (not_congr (iff_of_eq (Except.error.injEq ..)))

@[simp] theorem ensures_fail (e : ShellError) :
    Ensures M Q (fail e : Shell α) g s ↔ Q g s [] (.error (.error e)) :=
  forall_prop_of_true nofun

theorem run_bind (x : Shell β) (f : β → Shell α) (s : Session) :
    ((x >>= f).run s : Program _) =
      (x.run s : Program _) >>= fun r =>
        match r.1 with
        | .ok b => (f b).run r.2
        | .error e => Program.done (.error e, r.2) := by
  show (x.run s : Program _) >>= _ = _
  congr 1
  funext r
  rcases r with ⟨_ | b, s⟩ <;> rfl

theorem run_get_bind (f : Session → Shell α) (s : Session) :
    ((get >>= f).run s : Program _) = (f s).run s := rfl

theorem run_modify_bind (h : Session → Session) (f : PUnit → Shell α) (s : Session) :
    ((modify h >>= f).run s : Program _) = (f ⟨⟩).run (h s) := rfl

theorem run_ask_bind {c : Call} (f : c.Answer → Shell α) (s : Session) :
    ((ask c >>= f).run s : Program _) = .call c fun answer => (f answer).run s := rfl

/-- A sequence goes on in the session in which its first part ended, unless that part failed. -/
@[simp] theorem ensures_bind {x : Shell β} {f : β → Shell α} :
    Ensures M Q (x >>= f) g s ↔
      Ensures M (fun g s t r =>
        match r with
        | .ok b => Ensures M (fun g s u => Q g s (t ++ u)) (f b) g s
        | .error e => Q g s t (.error e)) x g s := by
  rw [Ensures, run_bind, Program.ensures_bind]
  constructor
  · refine fun h => Program.Ensures.mono h ?_
    rintro g t ⟨e | b, s⟩ h hr
    · rw [Program.Ensures, List.append_nil] at h
      exact h fun he => hr (congrArg Except.error (Except.error.inj he))
    · exact h
  · refine fun h => Program.Ensures.mono h ?_
    rintro g t ⟨e | b, s⟩ h
    · rw [Program.Ensures, List.append_nil]
      exact fun hr => h fun he => hr (congrArg Except.error (Except.error.inj he))
    · exact h nofun

@[simp] theorem ensures_ask {c : Call} {Q : G → Session → Trace → Except Failure c.Answer → Prop} :
    Ensures M Q (ask c) g s ↔
      M.permits g c ∧ ∀ answer, M.admits g c answer →
        Q (M.step g c answer) s [⟨c, answer⟩] (.ok answer) :=
  and_congr_right fun _ => forall₂_congr fun _ _ => forall_prop_of_true nofun

theorem ensures_ask_bind {c : Call} {f : c.Answer → Shell α} :
    Ensures M Q (ask c >>= f) g s ↔
      M.permits g c ∧ ∀ answer, M.admits g c answer →
        Ensures M (fun g s u => Q g s (⟨c, answer⟩ :: u)) (f answer) (M.step g c answer) s := by
  rw [ensures_bind, ensures_ask]
  rfl

@[simp] theorem ensures_get {Q : G → Session → Trace → Except Failure Session → Prop} :
    Ensures M Q (get : Shell Session) g s ↔ Q g s [] (.ok s) :=
  forall_prop_of_true nofun

@[simp] theorem ensures_modify {Q : G → Session → Trace → Except Failure PUnit → Prop}
    (f : Session → Session) :
    Ensures M Q (modify f : Shell PUnit) g s ↔ Q g (f s) [] (.ok ()) :=
  forall_prop_of_true nofun

@[simp] theorem ensures_modifyTable {Q : G → Session → Trace → Except Failure Unit → Prop}
    (f : Table → Table) :
    Ensures M Q (modifyTable f) g s ↔ Q g { s with table := f s.table } [] (.ok ()) :=
  forall_prop_of_true nofun

theorem Ensures.mono {x : Shell α} {R : G → Session → Trace → Except Failure α → Prop}
    (h : Ensures M Q x g s) (himp : ∀ g s t r, Q g s t r → R g s t r) : Ensures M R x g s :=
  Program.Ensures.mono h fun g t r hr hne => himp g r.2 t r.1 (hr hne)

/-- A sequence ensures what its second part ensures wherever the first part ends. -/
theorem Ensures.bind {x : Shell β} {f : β → Shell α}
    {R : G → Session → Trace → Except Failure β → Prop} (h : Ensures M R x g s)
    (hok : ∀ g s t b, R g s t (.ok b) → Ensures M (fun g s u => Q g s (t ++ u)) (f b) g s)
    (herror : ∀ g s t e, R g s t (.error e) → Q g s t (.error e)) :
    Ensures M Q (x >>= f) g s := by
  rw [ensures_bind]
  refine h.mono ?_
  rintro g s t (e | b) hend
  · exact herror g s t e hend
  · exact hok g s t b hend

theorem Ensures.of_leads {x : Shell α} {q : Program (Except Failure α × Session)} {t : Trace}
    (h : Ensures M Q x g s) (hleads : Program.Leads (x.run s : Program _) t q)
    (hlawful : M.Lawful g t) :
    Program.Ensures M (fun g u r => r.1 ≠ .error .stuck → Q g r.2 (t ++ u) r.1) q (M.after g t) :=
  Program.Ensures.of_leads h hleads hlawful

theorem Ensures.permitted {x : Shell α} {q : Program (Except Failure α × Session)} {t : Trace}
    (h : Ensures M Q x g s) (hleads : Program.Leads (x.run s : Program _) t q)
    (hlawful : M.Lawful g t) : M.Permitted g t :=
  Program.Ensures.permitted h hleads hlawful

theorem Ensures.of_runs {x : Shell α} {t : Trace} {r : Except Failure α} {s' : Session}
    (h : Ensures M Q x g s) (hruns : Program.Runs (x.run s : Program _) t (r, s'))
    (hlawful : M.Lawful g t) (hends : r ≠ .error .stuck) : Q (M.after g t) s' t r :=
  Program.Ensures.of_runs h hruns hlawful hends

-- From here on the rules above are all there is to know: unfolding the definition would carry the
-- program out.
attribute [irreducible] Ensures

end Shell

end JobShell
