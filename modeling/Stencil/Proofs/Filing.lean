import Stencil.Proofs.Chronicle.Openings
import Stencil.Proofs.Chronicle.Tenors
import Stencil.Proofs.Filing.Changes
import Stencil.Proofs.Sessions

/-!
# Created files

Tags that create files are all that changes the files in a rendering. Such a tag writes
the text of its template to a path below the output directory once the template is rendered
to its end, and makes the folders that are missing on the way there. Until then it touches
nothing; so if the rendering fails, however deep within, the files are left as they are
then, with what tags within wrote and with nothing of the tag itself.
-/

namespace Stencil

/-- At a place of the files there is what a tag leaves there: the file that it creates with
the text of its template, or a folder on the way to this file where nothing was. -/
def Moment.Leaves (tag : Moment) (key : List String) (before after : Option FileNode) : Prop :=
  ∃ opening depth left, tag.opening? = some opening ∧
    expand depth opening.station .whole opening.world = (.ok (), left) ∧
    (key = FilePath.place (FilePath.steps opening.path) ∧
        after = some (.file left.sink.text.toUTF8) ∨
      before = none ∧ after = some .folder ∧ Files.Above opening.path key)

/-- All that changed among the files was left by tags that are told of, and that have the
same output directory. -/
def World.FiledBy (events : List Event) (world after : World) : Prop :=
  ∀ key, after.host.files.get? key = world.host.files.get? key ∨
    ∃ tag : Moment, tag.event ∈ events ∧
      tag.world.context.outputDirectory = world.context.outputDirectory ∧
      tag.Leaves key (world.host.files.get? key) (after.host.files.get? key)

namespace World

variable {world middle after : World} {events fewer earlier later : List Event}

/-- Nothing need be told where no file is touched. -/
theorem FiledBy.of_same (same : after.host.files = world.host.files) :
    world.FiledBy events after := fun _ => Or.inl (by rw [same])

/-- More tags may be told of. -/
theorem FiledBy.mono (filed : world.FiledBy fewer after)
    (among : ∀ tag : Moment, tag.event ∈ fewer → tag.event ∈ events) :
    world.FiledBy events after :=
  fun key => (filed key).imp_right fun ⟨tag, told, leaves⟩ => ⟨tag, among tag told, leaves⟩

/-- What is left by tags stays unless it is changed by tags that follow. -/
theorem FiledBy.trans (first : world.FiledBy earlier middle)
    (sameDirectory : middle.context.outputDirectory = world.context.outputDirectory)
    (second : middle.FiledBy later after) : world.FiledBy (earlier ++ later) after := by
  intro key
  rcases second key with same | ⟨tag, told, directory, opening, depth, left, opens, ends, change⟩
  · rcases first key with unchanged | ⟨tag, told, directory, leaves⟩
    · exact Or.inl (same.trans unchanged)
    · exact Or.inr ⟨tag, List.mem_append_left _ told, directory, same ▸ leaves⟩
  · have toldToo := List.mem_append_right earlier told
    rcases change with isFile | ⟨missing, isFolder, above⟩
    · exact Or.inr ⟨tag, toldToo, directory.trans sameDirectory, opening, depth, left, opens, ends,
        Or.inl isFile⟩
    · -- Where nothing was in between nothing can have been left before.
      rcases first key with unchanged | ⟨_, _, _, _, _, _, _, _, ⟨_, isFile⟩ | ⟨_, isFolder, _⟩⟩
      · exact Or.inr ⟨tag, toldToo, directory.trans sameDirectory, opening, depth, left, opens,
          ends, Or.inr ⟨unchanged ▸ missing, isFolder, above⟩⟩
      · cases missing.symm.trans isFile
      · cases missing.symm.trans isFolder

/-- A file may get other bytes, but is never taken away. -/
theorem FiledBy.remains (filed : world.FiledBy events after) {key : List String}
    {bytes : ByteArray} (isFile : world.host.files.get? key = some (.file bytes)) :
    ∃ others, after.host.files.get? key = some (.file others) := by
  rcases filed key with same | ⟨_, _, _, _, _, left, _, _, ⟨_, written⟩ | ⟨missing, _, _⟩⟩
  · exact ⟨bytes, same.trans isFile⟩
  · exact ⟨left.sink.text.toUTF8, written⟩
  · cases missing.symm.trans isFile

end World

/-- The output directory stays the same, and what changes among the files is left by tags
that are told of. -/
def filing : Tenor Unit where
  keeps _ world after events :=
    after.context.outputDirectory = world.context.outputDirectory ∧ world.FiledBy events after
  admits _ _ := True

/-- This is kept by whatever changes little, and by sequences. -/
theorem filing_even : filing.Even where
  calm calm := ⟨calm.outputDirectory, .of_same calm.files⟩
  trans first second := ⟨second.1.trans first.1, first.2.trans first.1 second.2⟩
  aside _ := ⟨rfl, .of_same rfl⟩

/-- What happens in the rendering that a tag leads to is told of the tag. -/
theorem filing_within {depth : Nat} (follows : filing.Follows depth) {station : Station}
    {target template : Expr} {span : Span} {world : World} {opening : Opening}
    (opens : Moment.opening? ⟨station, .create target template span, world⟩ = some opening) :
    filing.keeps () world (expand depth opening.station .whole opening.world).2
      (Moment.inside ⟨station, .create target template span, world⟩ depth) := by
  obtain ⟨_, _, _, _, selects, sameFiles⟩ := Moment.of_opening opens
  have rendered := follows () opening.station .whole trivial opening.world
  rw [run_expandTold] at rendered
  have sameDirectory : opening.world.context.outputDirectory = world.context.outputDirectory := by
    rw [selects]
    rfl
  refine ⟨rendered.1.trans sameDirectory, ?_⟩
  have begun : world.FiledBy [] opening.world := .of_same sameFiles
  exact (begun.trans sameDirectory rendered.2).mono fun inner toldThere =>
    Moment.mem_inside_create.mpr ⟨opening, opens, toldThere⟩

/-- It is kept by a tag that creates a file, if it is kept in the rendering that the tag
leads to: what happens there is told, and so is the tag itself. -/
theorem filing_create {depth : Nat} (follows : filing.Follows depth) (station : Station)
    (target template : Expr) (span : Span) :
    filing.Keeps ()
      ((Stmt.create target template span).executeTold (expandTold depth) station) := by
  intro world
  let tag : Moment := ⟨station, .create target template span, world⟩
  have told : ((Stmt.create target template span).executeTold (expandTold depth) station).events
      world = tag.event :: tag.inside depth := tag.events_executeTold depth
  rw [told, Stmt.run_executeTold (run_expandTold depth)]
  cases opens : tag.opening? with
  | none =>
    obtain ⟨halt, after, fails, sameDirectory, sameFiles⟩ :=
      Moment.execute_of_unopened opens (expand depth)
    rw [fails]
    exact ⟨sameDirectory, .of_same sameFiles⟩
  | some opening =>
    have within := filing_within follows opens
    have among : ∀ inner : Moment, inner.event ∈ tag.inside depth ++ [tag.event] →
        inner.event ∈ tag.event :: tag.inside depth := fun inner member => by
      simpa [or_comm] using member
    rcases ends : expand depth opening.station .whole opening.world with ⟨halt | _, left⟩
    · obtain ⟨after, fails, sameDirectory, sameFiles⟩ := Moment.execute_of_unfinished opens ends
      rw [ends] at within
      rw [fails]
      have stays : left.FiledBy [tag.event] after := .of_same sameFiles
      exact ⟨sameDirectory.trans within.1, (within.2.trans within.1 stays).mono among⟩
    · obtain ⟨result, after, executes, sameDirectory, filed, -⟩ :=
        Moment.execute_of_finished opens ends
      rw [ends] at within
      rw [executes]
      have own : left.FiledBy [tag.event] after := by
        intro key
        rw [filed]
        have changes := left.host.files.get?_create opening.path left.sink.text.toUTF8 key
        exact changes.imp_right fun change =>
          ⟨tag, List.mem_singleton.mpr rfl, within.1.symm, opening, depth, left, opens, ends,
            change.imp_left fun ⟨_, isPlace, isFile⟩ => ⟨isPlace, isFile⟩⟩
      exact ⟨sameDirectory.trans within.1, (within.2.trans within.1 own).mono among⟩

/-- It is kept by all statements. -/
theorem filing_sound : filing.Sound where
  toEven := filing_even
  moves _ _ _ _ := trivial
  begins _ keeps := ⟨keeps.1, keeps.2.mono fun _ told => List.mem_cons_of_mem _ told⟩
  message {_ station body _} _ _ inside := by
    have notes : ∀ text, Run.Calm (Run.note (.message text)) :=
      fun _ => .of_context (fun _ => rfl) fun _ => rfl
    have caught := (((inside { station with escaping := false } trivial).capture filing_even).bind
      filing_even fun _ text _ _ => .calm filing_even (notes text))
    intro world
    exact ⟨(caught world).1, (caught world).2.mono fun _ told => List.mem_cons_of_mem _ told⟩
  tabbing {_ station body depth} _ _ inside := by
    have switched : ∀ on (world : World),
        (Run.switchTabbing on world).context.outputDirectory = world.context.outputDirectory := by
      intro on world
      show (world.context.switchTabbing on).2.outputDirectory = _
      unfold Context.switchTabbing
      split <;> rfl
    intro world
    have kept : filing.keeps () world
        (Account.run (station.withinTold (expandTold depth) .tabbing body
          fun inner => executeAllTold (expandTold depth) inner body) world).2
        (Account.events (station.withinTold (expandTold depth) .tabbing body
          fun inner => executeAllTold (expandTold depth) inner body) world) := by
      simp only [Station.withinTold]
      split
      · exact inside station trivial world
      · obtain ⟨sameDirectory, filed⟩ :=
          inside { station with tabbing := true } trivial (Run.switchTabbing true world)
        refine ⟨(switched false _).trans (sameDirectory.trans (switched true world)), ?_⟩
        have begun : world.FiledBy [] (Run.switchTabbing true world) := .of_same rfl
        exact begun.trans (switched true world) filed
    exact ⟨kept.1, kept.2.mono fun _ told => List.mem_cons_of_mem _ told⟩
  create {_ station target template span _} follows _ :=
    filing_create follows station target template span

/-- Whatever is rendered, what changes among the files is left by tags that are told of. -/
theorem Station.filedBy_of_expand (station : Station) (goal : Goal) (depth : Nat) (world : World) :
    world.FiledBy ((expandTold depth station goal).events world)
      (expand depth station goal world).2 := by
  have kept := filing_sound.follows depth () station goal trivial world
  rw [run_expandTold] at kept
  exact kept.2

/-- A tag that creates a file takes none away. -/
theorem remains_of_create {station : Station} {target template : Expr} {span : Span}
    {world after : World} {depth : Nat} {result : Except Halt Unit}
    (executes : (Stmt.create target template span).execute (expand depth) station world =
      (result, after)) {key : List String} {bytes : ByteArray}
    (isFile : world.host.files.get? key = some (.file bytes)) :
    ∃ others, after.host.files.get? key = some (.file others) := by
  have kept := (filing_create (filing_sound.follows depth) station target template span world).2
  rw [Stmt.run_executeTold (run_expandTold depth), executes] at kept
  exact kept.remains isFile

/-- A tag that creates a file, whatever its target and the output directory are, writes to the
output directory with proper segments behind it, and takes no file away. If no rendering
into the file is begun, or if it fails, then the tag fails, and the files are as they were, or
as tags within left them when the rendering failed. If the rendering comes to its end then
nothing changes but that the file gets its text, unless it is refused, and that folders are
made that are missing on the way to it. Once the tag is done, its path leads to the file with
just this text. -/
theorem files_of_create (station : Station) (target template : Expr) (span : Span)
    (world : World) (depth : Nat) :
    let tag : Moment := ⟨station, .create target template span, world⟩
    ∃ result after, tag.statement.execute (expand depth) station world = (result, after) ∧
      (∀ directory, FilePath.Below directory (world.pathOf directory target)) ∧
      (∀ key bytes, world.host.files.get? key = some (.file bytes) →
        ∃ others, after.host.files.get? key = some (.file others)) ∧
      (tag.opening? = none →
        (∃ halt, result = .error halt) ∧ after.host.files = world.host.files) ∧
      ∀ opening, tag.opening? = some opening → ∃ directory rendered left,
        world.context.outputDirectory = some directory ∧
        opening.path = world.pathOf directory target ∧
        expand depth opening.station .whole opening.world = (rendered, left) ∧
        world.FiledBy (tag.inside depth) left ∧
        (∀ halt, rendered = .error halt →
          result = .error halt ∧ after.host.files = left.host.files) ∧
        (rendered = .ok () →
          (result = .ok () →
            after.host.files.find opening.path = .ok (.file left.sink.text.toUTF8)) ∧
          ∀ key, after.host.files.get? key = left.host.files.get? key ∨
            result = .ok () ∧ key = FilePath.place (FilePath.steps opening.path) ∧
              after.host.files.get? key = some (.file left.sink.text.toUTF8) ∨
            left.host.files.get? key = none ∧ after.host.files.get? key = some .folder ∧
              Files.Above opening.path key) := by
  intro tag
  have isBelow : ∀ directory, FilePath.Below directory (world.pathOf directory target) :=
    fun directory => FilePath.below_join_normal directory _
  cases opens : tag.opening? with
  | none =>
    obtain ⟨halt, after, fails, -, sameFiles⟩ := Moment.execute_of_unopened opens (expand depth)
    exact ⟨_, after, fails, isBelow, fun _ _ => remains_of_create fails,
      fun _ => ⟨⟨halt, rfl⟩, sameFiles⟩, fun _ impossible => absurd impossible (by simp)⟩
  | some opening =>
    obtain ⟨directory, below, isPath, -⟩ := Moment.of_opening opens
    have within := (filing_within (filing_sound.follows depth) opens).2
    rcases ends : expand depth opening.station .whole opening.world with ⟨halt | _, left⟩
    · obtain ⟨after, fails, -, filed⟩ := Moment.execute_of_unfinished opens ends
      refine ⟨_, after, fails, isBelow, fun _ _ => remains_of_create fails,
        fun impossible => absurd impossible (by simp), fun other same => ?_⟩
      obtain rfl := Option.some.inj same
      rw [ends] at within
      refine ⟨directory, _, left, below, isPath, ends, within, fun _ same => ⟨same, filed⟩,
        fun impossible => absurd impossible (by simp)⟩
    · obtain ⟨result, after, executes, -, filed, succeeds⟩ := Moment.execute_of_finished opens ends
      refine ⟨result, after, executes, isBelow, fun _ _ => remains_of_create executes,
        fun impossible => absurd impossible (by simp), fun other same => ?_⟩
      obtain rfl := Option.some.inj same
      rw [ends] at within
      refine ⟨directory, _, left, below, isPath, ends, within,
        fun _ impossible => absurd impossible (by simp), fun _ => ⟨?_, ?_⟩⟩
      · intro isDone
        rw [filed]
        exact Files.find_of_created (succeeds.mp isDone)
      · intro key
        rw [filed, succeeds]
        exact left.host.files.get?_create opening.path left.sink.text.toUTF8 key

-- The outer file and its folder are not made, and the inner one stays where it belongs.
example :
    let prepared := (Session.empty.prepare [
      .addTemplate "leaf" "1",
      .addTemplate "part" (Source.tag "create '../a/y' from 'leaf'" ++ Source.tag "include 'none'"),
      .addTemplate "page" (Source.tag "create 'b/x' from 'part'"),
      .setOutputDirectory "out"]).2
    ((prepared.render (.name "page" none)).2.shop.host.files.listing "").map Prod.fst =
      ["out/", "out/a/", "out/a/y"] := by
  decide +kernel

end Stencil
