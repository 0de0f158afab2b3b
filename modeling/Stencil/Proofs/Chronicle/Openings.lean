import Stencil.Proofs.Chronicle.Moments

/-!
# What is rendered into a file

A tag that creates a file leads to a rendering: of the template that it names, from the
station behind the tag, into an empty buffer, under the policy for the file. There is none
without an output directory, or if the template cannot be had. All that the tag tells of is
told in this rendering, and what becomes of the tag and of the files is decided by it and by
the file being written in the end.
-/

namespace Stencil

/-- The value of an expression, and the world after it was evaluated. -/
def World.valueOf (world : World) (expression : Expr) : Value × World :=
  let done := expression.evaluate world.catalogue.filters world.context world.host
  (done.1, { world with host := done.2 })

/-- The path that a create tag writes to, below a directory. -/
def World.pathOf (world : World) (directory : String) (target : Expr) : String :=
  FilePath.join directory (TemplateName.normal (world.valueOf target).1.written)

/-- Evaluating an expression does not touch the files. -/
theorem World.files_valueOf (world : World) (expression : Expr) :
    (world.valueOf expression).2.host.files = world.host.files :=
  expression.sparesFiles_evaluate _ _ world.host

/-- An event of a sequence is one of its first part, or one of what follows. -/
theorem Account.mem_events_bind {α β : Type} {first : Account α} {next : α → Account β}
    {world : World} {event : Event} :
    event ∈ (first >>= next).events world ↔ event ∈ first.events world ∨
      ∃ value after, first.run world = (.ok value, after) ∧ event ∈ (next value).events after := by
  rw [Account.events_bind, List.mem_append]
  refine or_congr_right ?_
  rcases first.run world with ⟨halt | value, after⟩
  · constructor
    · exact nofun
    · rintro ⟨_, _, same, -⟩
      cases same
  · constructor
    · exact fun member => ⟨value, after, rfl, member⟩
    · rintro ⟨_, _, same, member⟩
      cases same
      exact member

/-- What a tag leads to begins the statements that are told of. -/
theorem Account.mem_events_through {α : Type} {gate : Gate} {target : Handle}
    {account : Account α} {world : World} {moment : Moment} :
    moment.event ∈ (account.through gate target).events world ↔
      moment.event ∈ account.events world := by
  rw [events_through, List.cons_append, List.mem_cons, List.mem_append]
  constructor
  · rintro (entered | told | left)
    · cases entered
    · exact told
    · split at left
      · cases List.mem_singleton.mp left
      · cases left
  · exact fun told => Or.inr (Or.inl told)

namespace Station

/-- Where a tag leads that names a template: the handle to it, the station behind the tag,
and the world there. It leads nowhere if the template cannot be had or the tag lies too
deep. -/
def reached? (station : Station) (span : Span) (name : String) (world : World) :
    Option (Handle × Station × World) :=
  match station.load span name world with
  | (.ok handle, loaded) =>
    match station.enter span loaded with
    | (.ok inner, entered) => some (handle, inner, entered)
    | (.error _, _) => none
  | (.error _, _) => none

variable {station : Station} {span : Span} {name : String} {world : World}

/-- Behind the tag the tags that led there are one more, and context and files are the same. -/
theorem of_reached {handle : Handle} {inner : Station} {entered : World}
    (reached : station.reached? span name world = some (handle, inner, entered)) :
    inner = { station with sites := station.sites ++ [station.site span] } ∧
      entered.context = world.context ∧ entered.host.files = world.host.files := by
  unfold reached? at reached
  split at reached
  · rename_i loads
    rw [load_apply] at loads
    split at loads <;> cases loads
    split at reached
    · rename_i enters
      rw [enter_apply] at enters
      split at enters <;> cases enters
      cases reached
      exact ⟨rfl, rfl, rfl⟩
    · cases reached
  · cases reached

/-- What is done there is done, and the handle is given back. -/
theorem visit_of_reached {α : Type} {handle : Handle} {inner : Station} {entered : World}
    (reached : station.reached? span name world = some (handle, inner, entered))
    (body : Handle → Station → Run α) :
    (station.load span name >>= fun handle =>
      Run.releasing handle (station.enter span >>= body handle)) world =
      Run.releasing handle (body handle inner) entered := by
  unfold reached? at reached
  split at reached
  · rename_i handle loaded loads
    split at reached
    · rename_i enters
      cases reached
      rw [Run.bind_apply, loads]
      unfold Run.releasing Run.between
      simp only [id, Run.bind_apply, enters]
    · cases reached
  · cases reached

/-- If it leads nowhere then it is at fault, and context and files are the same. -/
theorem visit_of_unreached {α : Type} (unreached : station.reached? span name world = none)
    (body : Handle → Station → Run α) : ∃ halt after,
      (station.load span name >>= fun handle =>
        Run.releasing handle (station.enter span >>= body handle)) world = (.error halt, after) ∧
      after.context = world.context ∧ after.host.files = world.host.files := by
  unfold reached? at unreached
  rw [Run.bind_apply]
  split at unreached
  · rename_i handle loaded loads
    rw [loads]
    rw [load_apply] at loads
    split at loads <;> cases loads
    split at unreached
    · cases unreached
    · rename_i fails
      unfold Run.releasing Run.between
      simp only [id, Run.bind_apply, fails]
      rw [enter_apply] at fails
      split at fails <;> cases fails
      exact ⟨_, _, rfl, rfl, rfl⟩
  · rename_i fails
    rw [fails]
    rw [load_apply] at fails
    split at fails <;> cases fails
    exact ⟨_, _, rfl, rfl, rfl⟩

/-- A file is written as the files admit of it. -/
theorem files_writeFile (station : Station) (span : Span) (path text : String) (world : World) :
    ∃ result after, station.writeFile span path text world = (result, after) ∧
      after.context = world.context ∧
      after.host.files = (world.host.files.create path text.toUTF8).2 ∧
      (result = .ok () ↔ (world.host.files.create path text.toUTF8).1 = .ok ()) := by
  rw [writeFile, Run.get_apply]
  rcases world.host.files.create path text.toUTF8 with ⟨cause | _, files⟩
  · refine ⟨_, _, rfl, rfl, rfl, iff_of_false ?_ ?_⟩ <;>
    · intro impossible
      cases impossible
  · exact ⟨_, _, rfl, rfl, rfl, iff_of_true rfl rfl⟩

/-- While a template is loaded nothing is begun. -/
theorem not_mem_loadTold (moment : Moment) :
    moment.event ∉ (station.loadTold span name).events world := by
  intro member
  unfold loadTold at member
  dsimp only at member
  split at member
  · cases member
  · split at member
    · cases member
    · cases List.mem_singleton.mp member

/-- The tag tells of what is done where it leads, and of nothing else that is begun. -/
theorem mem_visitTold {body : Handle → Station → Account Unit} {moment : Moment} :
    moment.event ∈ (station.loadTold span name >>= fun handle =>
      Account.releasing handle (Account.silent (station.enter span) >>= body handle)).events world ↔
      ∃ handle inner entered, station.reached? span name world = some (handle, inner, entered) ∧
        moment.event ∈ (body handle inner).events entered := by
  rw [Account.mem_events_bind, or_iff_right (not_mem_loadTold moment)]
  constructor
  · rintro ⟨handle, loaded, loads, visited⟩
    rcases Account.mem_events_bind.mp visited with entering | ⟨inner, entered, enters, told⟩
    · cases entering
    · refine ⟨handle, inner, entered, ?_, told⟩
      simp only [reached?, show station.load span name world = _ from loads,
        show station.enter span loaded = _ from enters]
  · rintro ⟨handle, inner, entered, reached, told⟩
    unfold reached? at reached
    split at reached
    · rename_i loads
      split at reached
      · rename_i enters
        cases reached
        exact ⟨handle, _, loads, Account.mem_events_bind.mpr (Or.inr ⟨_, _, enters, told⟩)⟩
      · cases reached
    · cases reached

end Station

/-- A rendering into a file: the path of the file, the handle to the template, and where and
in which world it is rendered. -/
structure Opening where
  path : String
  handle : Handle
  station : Station
  world : World

namespace Moment

open Account

/-- The rendering that a tag which creates a file leads to. -/
def opening? (tag : Moment) : Option Opening :=
  match tag.statement with
  | .create target template span =>
    let named := (tag.world.valueOf target).2.valueOf template
    match tag.world.context.outputDirectory with
    | none => none
    | some directory =>
      let path := tag.world.pathOf directory target
      (tag.station.reached? span named.1.written named.2).map fun (handle, inner, entered) =>
        ⟨path, handle, inner.into handle [], { entered with
          context := entered.context.select (FilePath.extension path)
          sink := .buffer "" }⟩
  | _ => none

section Openings

variable {opening : Opening} {station : Station} {target template : Expr} {span : Span}
  {world : World}

/-- It is led to by one tag more, in a world with the same files and with the policy for the
file. -/
theorem of_opening
    (opens : opening? ⟨station, .create target template span, world⟩ = some opening) :
    ∃ directory, world.context.outputDirectory = some directory ∧
      opening.path = world.pathOf directory target ∧
      opening.station = ({ station with
        sites := station.sites ++ [station.site span] }).into opening.handle [] ∧
      opening.world.context = world.context.select (FilePath.extension opening.path) ∧
      opening.world.host.files = world.host.files := by
  unfold opening? at opens
  dsimp only at opens
  split at opens
  · cases opens
  · rename_i directory below
    obtain ⟨⟨handle, inner, entered⟩, reached, rfl⟩ := Option.map_eq_some_iff.mp opens
    obtain ⟨isInner, sameContext, sameFiles⟩ := Station.of_reached reached
    refine ⟨directory, below, rfl, by rw [isInner], ?_, ?_⟩
    · exact congrArg (Context.select · _) sameContext
    · exact sameFiles.trans ((World.files_valueOf _ _).trans (World.files_valueOf _ _))

/-- What a tag does that creates a file, in short: it asks for the template where the output
directory is named. -/
theorem execute_create (expand : Expansion) :
    (Stmt.create target template span).execute expand station world =
      (match world.context.outputDirectory with
        | none => Run.fail (station.locate span
            (.ofCause (.noOutputDirectory (world.valueOf target).1.written)))
        | some directory =>
          station.load span ((world.valueOf target).2.valueOf template).1.written >>= fun handle =>
            Run.releasing handle (station.enter span >>= fun inner => do
              let text ← Run.underPolicy (FilePath.extension (world.pathOf directory target))
                (Run.capture (expand (inner.into handle []) .whole))
              station.writeFile span (world.pathOf directory target) text))
        ((world.valueOf target).2.valueOf template).2 := rfl

/-- A tag that leads to no such rendering is at fault, and touches no file. -/
theorem execute_of_unopened
    (unopened : opening? ⟨station, .create target template span, world⟩ = none)
    (expand : Expansion) : ∃ halt after,
      (Stmt.create target template span).execute expand station world = (.error halt, after) ∧
        after.context.outputDirectory = world.context.outputDirectory ∧
        after.host.files = world.host.files := by
  have filesNamed := (World.files_valueOf (world.valueOf target).2 template).trans
    (World.files_valueOf world target)
  rw [execute_create]
  unfold opening? at unopened
  dsimp only at unopened
  split at unopened
  · rename_i nowhere
    rw [nowhere]
    exact ⟨_, _, rfl, nowhere, filesNamed⟩
  · rename_i directory below
    rw [below]
    dsimp only
    obtain ⟨halt, after, fails, sameContext, sameFiles⟩ :=
      Station.visit_of_unreached (Option.map_eq_none_iff.mp unopened) _
    exact ⟨halt, after, fails, (congrArg Context.outputDirectory sameContext).trans below,
      sameFiles.trans filesNamed⟩

/-- What a tag does that leads to a rendering: it catches the text, under the policy for the file,
and writes it. -/
theorem execute_of_opened
    (opens : opening? ⟨station, .create target template span, world⟩ = some opening)
    (expand : Expansion) : ∃ entered : World,
      opening.world = { entered with
        context := entered.context.select (FilePath.extension opening.path)
        sink := .buffer "" } ∧
      (Stmt.create target template span).execute expand station world =
        Run.releasing opening.handle (Run.underPolicy (FilePath.extension opening.path)
          (Run.capture (expand opening.station .whole)) >>= fun text =>
            station.writeFile span opening.path text) entered := by
  rw [execute_create]
  unfold opening? at opens
  dsimp only at opens
  split at opens
  · cases opens
  · rename_i directory below
    rw [below]
    dsimp only
    obtain ⟨⟨handle, inner, entered⟩, reached, rfl⟩ := Option.map_eq_some_iff.mp opens
    exact ⟨entered, rfl, Station.visit_of_reached reached _⟩

/-- A tag whose rendering comes to no end is at fault, too, and the files are as this
rendering leaves them. -/
theorem execute_of_unfinished
    (opens : opening? ⟨station, .create target template span, world⟩ = some opening)
    {expand : Expansion} {halt : Halt} {left : World}
    (halts : expand opening.station .whole opening.world = (.error halt, left)) : ∃ after,
      (Stmt.create target template span).execute expand station world = (.error halt, after) ∧
        after.context.outputDirectory = left.context.outputDirectory ∧
        after.host.files = left.host.files := by
  obtain ⟨entered, isWorld, executed⟩ := execute_of_opened opens expand
  rw [isWorld] at halts
  rw [executed]
  unfold Run.releasing Run.between Run.underPolicy Run.between Run.capture
  simp only [id, Run.bind_apply, halts]
  exact ⟨_, rfl, rfl, rfl⟩

/-- If the rendering comes to an end then the tag writes its text to the path, which may be
refused. -/
theorem execute_of_finished
    (opens : opening? ⟨station, .create target template span, world⟩ = some opening)
    {expand : Expansion} {left : World}
    (ends : expand opening.station .whole opening.world = (.ok (), left)) : ∃ result after,
      (Stmt.create target template span).execute expand station world = (result, after) ∧
        after.context.outputDirectory = left.context.outputDirectory ∧
        after.host.files = (left.host.files.create opening.path left.sink.text.toUTF8).2 ∧
        (result = .ok () ↔
          (left.host.files.create opening.path left.sink.text.toUTF8).1 = .ok ()) := by
  obtain ⟨entered, isWorld, executed⟩ := execute_of_opened opens expand
  rw [isWorld] at ends
  obtain ⟨result, after, written, sameContext, filed, succeeds⟩ :=
    station.files_writeFile span opening.path left.sink.text
      { left with
        context := { left.context with active := entered.context.active }
        sink := entered.sink }
  have sameDirectory : after.context.outputDirectory = left.context.outputDirectory := by
    rw [sameContext]
  rw [executed]
  unfold Run.releasing Run.between Run.underPolicy Run.between Run.capture
  simp only [id, Run.bind_apply, ends, Except.map, written]
  exact ⟨_, _, rfl, sameDirectory, filed, succeeds⟩

/-- The tag tells of what is told in the rendering, and of nothing else that is begun. -/
theorem mem_inside_create {moment : Moment} {depth : Nat} :
    moment.event ∈ inside ⟨station, .create target template span, world⟩ depth ↔
      ∃ opening, opening? ⟨station, .create target template span, world⟩ = some opening ∧
        moment.event ∈ (expandTold depth opening.station .whole).events opening.world := by
  let named := (world.valueOf target).2.valueOf template
  have unfolded : inside ⟨station, .create target template span, world⟩ depth =
      (match world.context.outputDirectory with
        | none => silent (Run.fail (station.locate span
            (.ofCause (.noOutputDirectory (world.valueOf target).1.written))))
        | some directory =>
          station.loadTold span named.1.written >>= fun handle =>
            Account.releasing handle (silent (station.enter span) >>= fun inner => do
              let text ← (Account.underPolicy (FilePath.extension (world.pathOf directory target))
                (Account.capture (expandTold depth (inner.into handle []) .whole))).through
                  (station.gate span) handle
              silent (station.writeFile span (world.pathOf directory target) text))).events
        named.2 := rfl
  rw [unfolded]
  unfold opening?
  dsimp only
  cases world.context.outputDirectory with
  | none => exact ⟨nofun, fun ⟨_, impossible, _⟩ => nomatch impossible⟩
  | some directory =>
    have rendered : ∀ {handle : Handle} {inner : Station} {entered : World}, (moment.event ∈ (do
          let text ← (Account.underPolicy (FilePath.extension (world.pathOf directory target))
            (Account.capture (expandTold depth (inner.into handle []) .whole))).through
              (station.gate span) handle
          silent (station.writeFile span (world.pathOf directory target) text) :
            Account Unit).events entered ↔
        moment.event ∈ (expandTold depth (inner.into handle []) .whole).events { entered with
          context := entered.context.select (FilePath.extension (world.pathOf directory target))
          sink := .buffer "" }) := by
      intro handle inner entered
      refine mem_events_bind.trans ((or_iff_left ?_).trans mem_events_through)
      rintro ⟨_, _, _, impossible⟩
      cases impossible
    refine Station.mem_visitTold.trans ?_
    constructor
    · rintro ⟨handle, inner, entered, reached, told⟩
      exact ⟨_, Option.map_eq_some_iff.mpr ⟨_, reached, rfl⟩, rendered.mp told⟩
    · rintro ⟨opening, opens, told⟩
      obtain ⟨⟨handle, inner, entered⟩, reached, rfl⟩ := Option.map_eq_some_iff.mp opens
      exact ⟨handle, inner, entered, reached, rendered.mpr told⟩

end Openings

end Moment

end Stencil
