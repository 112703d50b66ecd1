import JobShell.Proofs.Commands
import JobShell.Proofs.RoundTrip

/-!
# Lifetimes

A run of the shell processes any number of lines, one after the other. The system may give the
number of a dead process to a new one, so a number can stand in the table more than once. Main
statements: the live record of a number is unique, the newest with this number, and belongs to a
child (`live_record_unique`); and the shell waits for no process whose end it has been told
(`waits_for_children`).
-/

namespace JobShell

namespace Shell

/-- From one session to another by processing lines, with the trace that this leaves. A line at
which the shell is stuck is never done, and no other line follows it. -/
inductive Processes (settings : Settings) : Session → Trace → Session → Prop where
  | nil (s : Session) : Processes settings s [] s
  | snoc {s s' s'' : Session} {t u : Trace} {result : Except Failure Flow} (raw : String)
      (before : Processes settings s t s')
      (line : Program.Runs ((processLine settings raw).run s' : Program _) u (result, s''))
      (ends : result ≠ .error .stuck) : Processes settings s (t ++ u) s''

variable {settings : Settings} {children : Finset Pid} {s : Session} {t u : Trace}

/-- At the end of every line the table tallies with the children, and until then the shell has
waited for children only. -/
theorem Processes.tallies (hprobe : settings.probe = .children)
    (hrun : Processes settings .fresh t s) (hlawful : Children.monitor.Lawful children t) :
    Tallies (Children.monitor.after children t) s.table.records ∧
      Children.monitor.Permitted children t := by
  -- The table is empty at first, whatever children there are, and each line keeps it in step.
  induction hrun with
  | nil => exact ⟨trivial, trivial⟩
  | snoc raw before line ends ih =>
    rw [Monitor.lawful_append] at hlawful
    obtain ⟨htallies, hpermitted⟩ := ih hlawful.1
    have hensures := ensures_processLine hprobe htallies raw
    have hleads := Program.leads_done_iff.2 line
    rw [Monitor.after_append, Monitor.permitted_append]
    refine ⟨(hensures.of_runs line hlawful.2 ends).1, hpermitted, ?_⟩
    exact hensures.permitted hleads hlawful.2

/-- A line that is a command as it is displayed, and no reference to an earlier line, does what the
command does, in a session that has recorded the line. -/
theorem run_processLine (raw : String) (command : Command) (hline : withoutLineEnd raw = raw)
    (hblank : Text.isBlankText raw = false) (hplain : ∀ h : History, h.resolve raw = .ok raw)
    (hcommand : command.WellFormed) (hraw : command.toLine = raw) :
    ((processLine settings raw).run s : Program _) =
      (execute settings command).run { s with history := s.history.push raw } := by
  have hparse := Command.parse_toLine hcommand
  rw [hraw] at hparse
  rw [processLine, hline]
  show ((if Text.isBlankText raw then _ else _ : Shell Flow).run s : Program _) = _
  rw [if_neg (by simp [hblank]), run_get_bind, hplain]
  dsimp only
  rw [processResolved, run_modify_bind, hparse]

/-! ### An example

A program runs in the foreground and ends, the next one gets its number and runs in the background,
and then the user lists the processes. -/

namespace Recycled

def silent : Settings := ⟨false, .children, 2⟩

/-- The record of the first program. -/
def old : Record := ⟨⟨7⟩, .ofArguments ["a"], .terminated, none⟩

/-- The record of the second program. -/
def new : Record := ⟨⟨7⟩, .single ⟨["b"], none, none, false⟩, .running, none⟩

def session : Session := ⟨⟨[new, old]⟩, ⟨20, ["a", "b &"]⟩⟩

def afterListing : Session := ⟨⟨[new]⟩, ⟨20, ["a", "b &", "procs"]⟩⟩

def foreground : Trace :=
  [⟨.flush, .ok ()⟩, ⟨.fork ⟨old.command.first, .alone, none, false⟩, .ok ⟨7⟩⟩,
    ⟨.log (.spawned ⟨7⟩ old.command .alone), ()⟩, ⟨.log (.tracking ⟨7⟩ old.command), ()⟩,
    ⟨.wait ⟨7⟩ .block, .ok (.exited 0)⟩, ⟨.log (.waited ⟨7⟩ .terminated), ()⟩,
    ⟨.log (.launched [⟨7⟩]), ()⟩]

def background : Trace :=
  [⟨.flush, .ok ()⟩, ⟨.fork ⟨new.command.first, .alone, none, false⟩, .ok ⟨7⟩⟩,
    ⟨.log (.spawned ⟨7⟩ new.command .alone), ()⟩, ⟨.log (.tracking ⟨7⟩ new.command), ()⟩,
    ⟨.log (.launched [⟨7⟩]), ()⟩]

/-- The first poll is interrupted, and the heading cannot be written. -/
def listing : Trace :=
  [⟨.wait ⟨7⟩ .poll, .error .interrupted⟩, ⟨.wait ⟨7⟩ .poll, .ok .stillAlive⟩,
    ⟨.log (.reaping ⟨7⟩), ()⟩, ⟨.write Listing.heading, .error .invalid⟩]

theorem runs_foreground :
    Program.Runs ((processLine silent "a").run .fresh : Program _) foreground
      (.ok .proceed, ⟨⟨[old]⟩, ⟨20, ["a"]⟩⟩) := by
  rw [run_processLine "a" old.command (by decide) (by decide) (fun _ => rfl) (by decide)
    (by decide)]
  exact .call _ (.call _ (.call _ (.call _ (.call _ (.call _ (.call _ (.done _)))))))

theorem runs_background :
    Program.Runs ((processLine silent "b &").run ⟨⟨[old]⟩, ⟨20, ["a"]⟩⟩ : Program _) background
      (.ok .proceed, session) := by
  rw [run_processLine "b &" new.command (by decide) (by decide) (fun _ => rfl) (by decide)
    (by decide)]
  exact .call _ (.call _ (.call _ (.call _ (.call _ (.done _)))))

theorem runs_listing :
    Program.Runs ((processLine silent "procs").run session : Program _) listing
      (.error (.error (.output (.system .invalid))), afterListing) := by
  rw [run_processLine "procs" (.ofArguments ["procs"]) (by decide) (by decide) (fun _ => rfl)
    (by decide) (by decide)]
  exact .call _ (.call _ (.call _ (.call _ (.done _))))

theorem processes : Processes silent .fresh (foreground ++ background) session :=
  .snoc "b &" (.snoc (t := []) "a" (.nil _) runs_foreground nofun) runs_background nofun

theorem lawful : Children.monitor.Lawful ∅ (foreground ++ background ++ listing) := by
  refine ⟨trivial, ?_, trivial, trivial, trivial, trivial, trivial, trivial, ?_, trivial, trivial,
    trivial, ?_, trivial, trivial, trivial, trivial⟩
  · exact Finset.notMem_empty _
  · exact Finset.notMem_erase _ _
  · exact fun _ => .inl rfl

end Recycled

/-- A live record is the first with its number, and all others with it are dead. So it is the one
that the operations on this number act on, and its process is a child. -/
theorem live_record_unique (hprobe : settings.probe = .children)
    (hrun : Processes settings .fresh t s) (hlawful : Children.monitor.Lawful children t)
    {before after : List Record} {r : Record} (hsplit : s.table.records = before ++ r :: after)
    (hlive : r.observed ≠ .terminated) :
    (∀ r' ∈ before, r'.pid ≠ r.pid) ∧
      (∀ r' ∈ after, r'.pid = r.pid → r'.observed = .terminated) ∧
      s.table.get? r.pid = some r ∧
      (∀ status, s.table.predict r.pid status =
        ⟨before ++ { r with predicted := some status } :: after⟩) ∧
      (∀ status, s.table.observe r.pid status = ⟨before ++ r.settle status :: after⟩) ∧
      r.pid ∈ Children.monitor.after children t := by
  obtain ⟨htallies, -⟩ := hrun.tallies hprobe hlawful
  rw [hsplit] at htallies
  obtain ⟨hbefore, hafter⟩ := htallies.unique hlive
  refine ⟨hbefore, fun r' hr' heq => ?_, ?_, fun status => ?_, fun status => ?_, ?_⟩
  · exact not_not.1 (hafter r' hr' heq)
  · rw [Table.get?, hsplit, List.find?_eq_some_iff_append]
    refine ⟨by simp, before, after, rfl, fun r' hr' => ?_⟩
    simpa using hbefore r' hr'
  · rw [Table.predict, hsplit, Table.updateFirst_append_cons hbefore]
  · rw [Table.observe, hsplit, Table.updateFirst_append_cons hbefore]
  · exact htallies.mem_of_isLive (by simp) hlive

theorem live_record_unique_recycled :
    Processes Recycled.silent .fresh (Recycled.foreground ++ Recycled.background)
        Recycled.session ∧
      Children.monitor.Lawful ∅ (Recycled.foreground ++ Recycled.background) ∧
      Recycled.session.table.records = [] ++ Recycled.new :: [Recycled.old] ∧
      Recycled.new.observed ≠ .terminated ∧
      (∀ r' ∈ [Recycled.old], r'.pid = Recycled.new.pid → r'.observed = .terminated) ∧
      Recycled.session.table.get? ⟨7⟩ = some Recycled.new ∧
      ⟨7⟩ ∈ Children.monitor.after ∅ (Recycled.foreground ++ Recycled.background) := by
  have hlawful := ((Monitor.lawful_append ..).1 Recycled.lawful).1
  have hsplit : Recycled.session.table.records = [] ++ Recycled.new :: [Recycled.old] := rfl
  have hlive : Recycled.new.observed ≠ .terminated := by decide
  obtain ⟨-, hold, hget, -, -, hchild⟩ :=
    live_record_unique rfl Recycled.processes hlawful hsplit hlive
  exact ⟨Recycled.processes, hlawful, hsplit, hlive, hold, hget, hchild⟩

/-- The shell waits for no process whose end it has been told, at any moment of any line. So the end
of a process is reported at most once: before a second report with its number a new process gets
this number. And every line that is done treats the table as `Passed` says: dead records stay dead
until they are dropped, and a listing polls each child in the table exactly once. -/
theorem waits_for_children (hprobe : settings.probe = .children)
    (hrun : Processes settings .fresh t s) (raw : String)
    {rest : Program (Except Failure Flow × Session)}
    (hline : Program.Leads ((processLine settings raw).run s : Program _) u rest)
    (hlawful : Children.monitor.Lawful children (t ++ u)) :
    (∀ pid mode next, rest = .call (.wait pid mode) next →
      pid ∈ Children.monitor.after children (t ++ u) ∧
      ∀ answer, Children.monitor.admits (Children.monitor.after children (t ++ u))
        (.wait pid mode) answer → answer ≠ .error .noChild) ∧
    (∀ first between last e e' pid, t ++ u = first ++ e :: between ++ e' :: last →
      e.ended? = some pid → e'.ended? = some pid → pid ∈ Trace.launched between) ∧
    ∀ result s', rest = .done (result, s') → result ≠ .error .stuck →
      Passed (Children.monitor.after children t) s.table s'.table u (requested? s raw) := by
  rw [Monitor.lawful_append] at hlawful
  obtain ⟨htallies, hpermitted⟩ := hrun.tallies hprobe hlawful.1
  have hensures := ensures_processLine hprobe htallies raw
  have hrest := hensures.of_leads hline hlawful.2
  refine ⟨?_, ?_, ?_⟩
  · intro pid mode next h
    subst h
    rw [Monitor.after_append]
    refine ⟨hrest.1, fun answer hanswer heq => ?_⟩
    -- For a child, `noChild` is not among the errors that a wait can fail with.
    subst heq
    exact absurd (hanswer hrest.1) (by decide)
  · intro first between last e e' pid hsplit he he'
    have hall := (Monitor.permitted_append ..).2 ⟨hpermitted, hensures.permitted hline hlawful.2⟩
    rw [hsplit] at hall
    exact Children.mem_launched_of_ended hall he he'
  · intro result s' h hends
    subst h
    rw [Program.Ensures, List.append_nil] at hrest
    exact (hrest hends).2

theorem waits_for_children_recycled :
    Processes Recycled.silent .fresh (Recycled.foreground ++ Recycled.background)
        Recycled.session ∧
      Program.Leads ((processLine Recycled.silent "procs").run Recycled.session : Program _)
        Recycled.listing
        (.done (.error (.error (.output (.system .invalid))), Recycled.afterListing)) ∧
      Children.monitor.Lawful ∅ (Recycled.foreground ++ Recycled.background ++ Recycled.listing) ∧
      Passed (Children.monitor.after ∅ (Recycled.foreground ++ Recycled.background))
        Recycled.session.table Recycled.afterListing.table Recycled.listing
        (requested? Recycled.session "procs") := by
  have hline := Program.leads_done_iff.2 Recycled.runs_listing
  obtain ⟨-, -, hpassed⟩ :=
    waits_for_children rfl Recycled.processes "procs" hline Recycled.lawful
  exact ⟨Recycled.processes, hline, Recycled.lawful, hpassed _ _ rfl nofun⟩

end Shell

end JobShell
