import Stencil.Proofs.Chronicle.Tenors

/-!
# What is observed at moments

What is observed at moments follows from the places where they are: it is carried along by
everything that is executed, and can only be lost within statements that shut it out. So
at every moment of a chronicle it is observed, or the moment lies within such a statement.
This is a tenor of accounts, shown here once for whatever is observed.
-/

namespace Stencil

/-- Expanding goals tells policies about tabbing as statements expect it of goals. -/
theorem telling_follows (depth : Nat) : telling.Follows (expand depth) (expand depth) := by
  rintro _ station goal rfl
  exact tells_expand depth station goal

/-- Something that is observed at moments, with regard to a world before: where stations
have to be for it, whether tabbing is on there, the statements that shut it out, and what
is observed. -/
structure Observance (Circumstance : Type) where
  tabbing : Bool
  admits : Circumstance → Station → Prop
  shuts : Circumstance → Station → Stmt → Prop
  sees : Circumstance → World → Moment → Prop

namespace Observance

variable {Circumstance : Type} (observance : Observance Circumstance) {α β : Type}

/-- What is observed is observed of a statement that is begun, is carried along by what is
executed, and by the tags that do not shut it out. -/
structure Sound : Prop where
  tabbing : ∀ {circumstance station}, observance.admits circumstance station →
    observance.tabbing = true → station.tabbing = true
  moves : ∀ {circumstance} {station other : Station}, observance.admits circumstance station →
    other.escaping = station.escaping → other.tabbing = station.tabbing →
    station.sites <+: other.sites → observance.admits circumstance other
  muted : ∀ {circumstance station body}, observance.admits circumstance station →
    ¬ observance.shuts circumstance station (.within .message body) →
    observance.admits circumstance { station with escaping := false }
  switched : ∀ {circumstance station body}, observance.admits circumstance station →
    station.tabbing = false → ¬ observance.shuts circumstance station (.within .tabbing body) →
    observance.admits circumstance { station with tabbing := true } ∧
      ∀ world moment, observance.sees circumstance (Run.switchTabbing true world) moment →
        observance.sees circumstance world moment
  selected : ∀ {circumstance station target template span},
    observance.admits circumstance station →
    ¬ observance.shuts circumstance station (.create target template span) →
    ∀ extension world moment,
    observance.sees circumstance { world with context := world.context.select extension } moment →
    observance.sees circumstance world moment
  own : ∀ {circumstance station} statement world, observance.admits circumstance station →
    observance.sees circumstance world ⟨station, statement, world⟩
  carried : ∀ {circumstance world after moment},
    Context.Used observance.tabbing world.context after.context →
    observance.sees circumstance after moment → observance.sees circumstance world moment

/-- What is observed at a moment with regard to a world, unless the moment lies within a
statement that shuts it out and is told of, too. -/
def Covers (circumstance : Circumstance) (world : World) (events : List Event)
    (moment : Moment) : Prop :=
  observance.sees circumstance world moment ∨ ∃ outer : Moment, outer.event ∈ events ∧
    observance.shuts circumstance outer.station outer.statement ∧ moment.Within outer

/-- Policies are used as they may be, and what is told of is covered. -/
def tenor : Tenor Circumstance where
  keeps circumstance world after events :=
    Context.Used observance.tabbing world.context after.context ∧
      ∀ moment : Moment, moment.event ∈ events →
        observance.Covers circumstance world events moment
  admits := observance.admits

variable {observance} {circumstance : Circumstance}

/-- More may be told. -/
theorem Covers.mono {world : World} {fewer events : List Event} {moment : Moment}
    (covers : observance.Covers circumstance world fewer moment) (among : fewer ⊆ events) :
    observance.Covers circumstance world events moment :=
  covers.imp_right fun ⟨outer, told, shuts, within⟩ => ⟨outer, among told, shuts, within⟩

/-- What is observed may have been observed earlier. -/
theorem Covers.imp {world earlier : World} {events : List Event} {moment : Moment}
    (covers : observance.Covers circumstance world events moment)
    (carries : observance.sees circumstance world moment →
      observance.sees circumstance earlier moment) :
    observance.Covers circumstance earlier events moment :=
  covers.imp_left carries

namespace Sound

variable (sound : observance.Sound) {depth : Nat} {station : Station}
include sound

/-- What is executed at a station uses the policies as they may be used for what is
observed there. -/
theorem used (admitted : observance.admits circumstance station) {before after : Context}
    (used : Context.Used station.tabbing before after) :
    Context.Used observance.tabbing before after := by
  cases isOn : observance.tabbing with
  | true => rwa [sound.tabbing admitted isOn] at used
  | false =>
    cases on : station.tabbing with
    | true => exact (on ▸ used).weaken
    | false => exact on ▸ used

/-- It is kept where little changes, and by sequences. -/
theorem even : observance.tenor.Even where
  calm {_ _ _} calm := by
    refine ⟨?_, fun _ => nofun⟩
    cases observance.tabbing with
    | true => exact calm.used
    | false => exact calm.used.weaken
  trans {_ _ _ _ _ _} first second := by
    refine ⟨first.1.trans second.1, fun moment told => ?_⟩
    rcases List.mem_append.mp told with earlier | later
    · exact (first.2 moment earlier).mono (List.subset_append_left _ _)
    · exact ((second.2 moment later).mono (List.subset_append_right _ _)).imp
        (sound.carried first.1)
  aside {_ _ _} aside :=
    ⟨.of_same rfl rfl, fun moment told => absurd (List.mem_singleton.mp told).symm (aside moment)⟩

/-- A statement that is begun is observed itself. -/
theorem begins {statement : Stmt} {world after : World} {events : List Event}
    (admitted : observance.admits circumstance station)
    (keeps : observance.tenor.keeps circumstance world after events) :
    observance.tenor.keeps circumstance world after (.began station statement world :: events) := by
  refine ⟨keeps.1, fun moment told => ?_⟩
  rcases List.mem_cons.mp told with own | inside
  · have isOwn : moment = ⟨station, statement, world⟩ := Moment.event_injective own
    exact isOwn ▸ Or.inl (sound.own statement world admitted)
  · exact (keeps.2 moment inside).mono (List.subset_cons_self _ _)

/-- Inside of a statement that shuts it out, what is observed is covered by the statement. -/
theorem shut {statement : Stmt} (admitted : observance.admits circumstance station)
    (shuts : observance.shuts circumstance station statement) :
    observance.tenor.Keeps circumstance
      (statement.executeTold (expandTold depth) station) := by
  intro world
  have executes := (telling_sound.execute (telling_follows depth) statement _ station rfl world).1
  rw [← statement.run_executeTold (run_expandTold depth) station] at executes
  refine ⟨sound.used admitted executes, fun moment told => ?_⟩
  have begun := Moment.events_executeTold ⟨station, statement, world⟩ depth
  dsimp only at begun
  rw [begun] at told ⊢
  rcases List.mem_cons.mp told with own | inside
  · have isOwn : moment = ⟨station, statement, world⟩ := Moment.event_injective own
    rw [isOwn]
    exact Or.inl (sound.own statement world admitted)
  · exact Or.inr ⟨⟨station, statement, world⟩, List.mem_cons_self, shuts, depth, inside⟩

/-- A file that is created, if the tag does not shut out what is observed: the policy for the
file is active for a time only. -/
theorem create (follows : observance.tenor.Follows depth)
    (admitted : observance.admits circumstance station) {target template : Expr} {span : Span}
    (passes : ¬ observance.shuts circumstance station (.create target template span)) :
    observance.tenor.Keeps circumstance
      (station.createTold (expandTold depth) target template span) := by
  have even := sound.even
  have selects : ∀ {account : Account String} (extension : String),
      observance.tenor.Keeps circumstance account →
      observance.tenor.Keeps circumstance (account.underPolicy extension) := by
    intro account extension keeps world
    obtain ⟨used, covered⟩ := keeps { world with context := world.context.select extension }
    exact ⟨⟨rfl, used.told⟩, fun moment told =>
      (covered moment told).imp (sound.selected admitted passes extension _ _)⟩
  have writes : ∀ path text, observance.tenor.Keeps circumstance
      (Account.silent (station.writeFile span path text)) := by
    intro path text world
    obtain ⟨result, host, applied⟩ := station.writeFile_apply span path text world.host
    refine ⟨?_, fun _ => nofun⟩
    show Context.Used _ _ (station.writeFile span path text world).2.context
    rw [applied world rfl]
    exact .of_same rfl rfl
  refine (Tenor.Keeps.evaluateText even target).bind even fun _ target _ _ => ?_
  refine (Tenor.Keeps.evaluateText even template).bind even fun _ name _ _ => ?_
  have looks : Run.Calm Run.directory := .of_context (fun _ => rfl) fun _ => rfl
  refine (Tenor.Keeps.calm even looks).bind even fun _ directory _ _ => ?_
  cases directory with
  | none => exact .calm even (.of_context (fun _ => rfl) fun _ => rfl)
  | some directory =>
    refine Tenor.Keeps.visit even span name fun handle => ?_
    have rendered := follows circumstance
      (({ station with sites := station.sites ++ [station.site span] }).into handle []) .whole
      (sound.moves admitted rfl rfl (List.prefix_append _ _))
    exact ((selects _ (rendered.capture even)).through even _ handle).bind even
      fun _ text _ _ => writes _ text

/-- What is observed soundly is a sound tenor. -/
theorem sound_tenor : observance.tenor.Sound where
  toEven := sound.even
  moves admitted escaping tabbing sites := sound.moves admitted escaping tabbing sites
  begins admitted keeps := sound.begins admitted keeps
  message {circumstance station body _} _ admitted inside := by
    by_cases shuts : observance.shuts circumstance station (.within .message body)
    · exact sound.shut admitted shuts
    · intro world
      have muted := inside { station with escaping := false } (sound.muted admitted shuts)
      have notes : ∀ text, Run.Calm (Run.note (.message text)) :=
        fun _ => .of_context (fun _ => rfl) fun _ => rfl
      have caught := (muted.capture sound.even).bind sound.even fun _ text _ _ =>
        .calm sound.even (notes text)
      exact sound.begins admitted (caught world)
  tabbing {circumstance station body depth} _ admitted inside := by
    by_cases shuts : observance.shuts circumstance station (.within .tabbing body)
    · exact sound.shut admitted shuts
    · intro world
      refine sound.begins admitted ?_
      show observance.tenor.keeps _ _ (Account.run (station.withinTold _ .tabbing body _) world).2
        (Account.events (station.withinTold _ .tabbing body _) world)
      simp only [Station.withinTold]
      by_cases on : station.tabbing = true
      · rw [if_pos on]
        exact inside station admitted world
      · rw [if_neg on]
        have off : station.tabbing = false := Bool.eq_false_iff.mpr on
        obtain ⟨admittedInside, carries⟩ := sound.switched admitted off shuts
        have inner := inside { station with tabbing := true } admittedInside
        have tells := telling_sound.executeAll (telling_follows depth) body true
          { station with tabbing := true } fun _ _ => rfl
        rw [← run_executeAllTold (run_expandTold depth) body { station with tabbing := true }]
          at tells
        have told := (Run.Tells.tabbed tells world).1
        exact ⟨sound.used admitted (off ▸ told),
          fun moment member => ((inner _).2 moment member).imp (carries world moment)⟩
  create {circumstance station target template span _} follows admitted := by
    by_cases shuts : observance.shuts circumstance station (.create target template span)
    · exact sound.shut admitted shuts
    · exact fun world => sound.begins admitted (sound.create follows admitted shuts world)

/-- So it is kept by all goals. -/
theorem follows (depth : Nat) : observance.tenor.Follows depth := sound.sound_tenor.follows depth

/-- And by statements. -/
theorem executeAll (depth : Nat) (statements : List Stmt)
    (admitted : observance.admits circumstance station) :
    observance.tenor.Keeps circumstance (executeAllTold (expandTold depth) station statements) :=
  sound.sound_tenor.executeAll (sound.follows depth) statements admitted

end Sound

end Observance

end Stencil
