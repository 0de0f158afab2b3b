import Stencil.Proofs.Chronicle.Soundness
import Stencil.Proofs.Shelf.Ready

/-!
# Cycle tags go round

The turn of a cycle tag is how often it was executed before in the same rendering. The
table of turns is kept by serial numbers of templates and numbers of tags. In a ready
catalogue these tell apart what has to be told apart: no two templates that a rendering
comes to share a serial number, and no two cycle tags of a template share a number. So
what counts for a tag are its own executions, and nothing else.
-/

namespace Stencil

namespace Event

/-- The cycle tag that is executed, as it is counted. -/
def cycleTag? : Event → Option CycleTag
  | began station (.cycle number _ _) _ => some ⟨station.handle.serial, number⟩
  | _ => none

/-- The event is that a statement of a template is begun. -/
def Executes (handle : Handle) (statement : Stmt) (event : Event) : Prop :=
  ∃ station world, event = began station statement world ∧ station.handle = handle

open Classical in
/-- How often events tell that a statement of a template is begun. -/
noncomputable def executions (handle : Handle) (statement : Stmt) (events : List Event) : Nat :=
  events.countP fun event => Executes handle statement event

end Event

/-- Of two cycle tags of a well-formed template with one number there is one. -/
theorem Template.WellFormed.eq_of_number {template : Template} (wellFormed : template.WellFormed)
    {number : Nat} {first other : Expr} {others rest : List Expr}
    (isPart : .cycle number first others ∈ template.parts)
    (isPartToo : .cycle number other rest ∈ template.parts) :
    Stmt.cycle number first others = .cycle number other rest := by
  have cycle : (number, first :: others) ∈ template.cycles :=
    List.mem_filterMap.mpr ⟨_, isPart, rfl⟩
  have cycleToo : (number, other :: rest) ∈ template.cycles :=
    List.mem_filterMap.mpr ⟨_, isPartToo, rfl⟩
  have same := List.inj_on_of_nodup_map wellFormed.numbered cycle cycleToo rfl
  cases same
  rfl

namespace Course

variable {root : Handle} {gates reached : List Gate} {world moment after : World}
  {events earlier later : List Event} {event : Event}

/-- An event counts for the cycle tag that it executes. -/
theorem count_of_happens (happens : event.Happens root gates world reached after)
    (tag : CycleTag) :
    after.turns.count tag =
      world.turns.count tag + if event.cycleTag? = some tag then 1 else 0 := by
  cases happens with
  | enter => rfl
  | leave => rfl
  | @begin _ _ _ station statement _ _ _ _ turned =>
    rw [turned]
    cases statement with
    | cycle number first others =>
      by_cases isThis : (⟨station.handle.serial, number⟩ : CycleTag) = tag
      · subst isThis
        simp [Event.cycleTag?, Stmt.turned]
      · have others := Turns.count_advance_of_ne
        simp [Event.cycleTag?, Stmt.turned, isThis, others _ _ _ (Ne.symm isThis)]
    | _ => rfl

/-- Where a course tells that a statement is begun, the statement belongs to its template,
which is known, and the cycle tags were executed as often as was told before. -/
theorem begun (course : Course root gates world events reached after) {station : Station}
    {statement : Stmt} (told : events = earlier ++ .began station statement moment :: later) :
    moment.catalogue.Knows root station.handle ∧ statement ∈ station.template.parts ∧
      moment.Holds after ∧ ∀ tag, moment.turns.count tag =
        world.turns.count tag + earlier.countP fun event => event.cycleTag? = some tag := by
  induction course generalizing earlier with
  | still => cases List.append_eq_nil_iff.mp told.symm |>.2
  | quietly _ turns _ inductionHypothesis =>
    obtain ⟨known, isPart, holds, counts⟩ := inductionHypothesis told
    exact ⟨known, isPart, holds, fun tag => turns ▸ counts tag⟩
  | @eventfully _ _ _ _ middle _ _ _ happens course inductionHypothesis =>
    cases earlier with
    | nil =>
      obtain ⟨rfl, rfl⟩ := List.cons.inj told
      cases happens with
      | begin _ known isPart same _ =>
        exact ⟨known, isPart, (World.Holds.of_same same).trans course.holds, fun _ => rfl⟩
    | cons first rest =>
      obtain ⟨rfl, rfl⟩ := List.cons.inj told
      obtain ⟨known, isPart, holds, counts⟩ := inductionHypothesis rfl
      refine ⟨known, isPart, holds, fun tag => ?_⟩
      rw [counts, count_of_happens happens, List.countP_cons]
      simp only [decide_eq_true_eq]
      omega

end Course

/-- What a chronicle tells before it tells that a statement is begun, a course tells. -/
theorem Workshop.begun_in_chronicle {shop : Workshop} {limit : Nat} {handle : Handle} {sink : Sink}
    {earlier later : List Event} {station : Station} {statement : Stmt} {moment : World}
    (told : shop.chronicle limit handle sink =
      earlier ++ .began station statement moment :: later) :
    moment.catalogue.Knows handle station.handle ∧ statement ∈ station.template.parts ∧
      moment.Holds (shop.renderInto limit handle sink).2 ∧
      ∀ tag, moment.turns.count tag = earlier.countP fun event => event.cycleTag? = some tag := by
  obtain ⟨events, reached, refused, same, course, -⟩ := shop.chronicle_course limit handle sink
  have within : ∃ rest, events = earlier ++ .began station statement moment :: rest := by
    rw [told] at same
    cases refused with
    | none => exact ⟨later, by simpa using same.symm⟩
    | some gate =>
      rcases List.append_eq_append_iff.mp same.symm with ⟨between, _, last⟩ | ⟨between, split, last⟩
      · have among : Event.began station statement moment ∈ [Event.barred gate] := by
          rw [show [Event.barred gate] = _ from last]
          exact List.mem_append_right _ List.mem_cons_self
        cases List.mem_singleton.mp among
      · cases between with
        | nil => cases (List.cons.inj last).1
        | cons first rest =>
          obtain ⟨rfl, -⟩ := List.cons.inj last
          exact ⟨rest, split⟩
  obtain ⟨rest, split⟩ := within
  obtain ⟨known, isPart, holds, counts⟩ := course.begun split
  exact ⟨known, isPart, holds, fun tag => (counts tag).trans (Nat.zero_add _)⟩

namespace Catalogue.Ready

variable {shop : Workshop} {handle : Handle} {limit : Nat} {sink : Sink}
  (ready : shop.catalogue.Ready handle)
include ready

/-- A template that a chronicle tells of is known at the end, and was compiled. -/
theorem knows_of_begun {earlier later : List Event} {station : Station} {statement : Stmt}
    {moment : World} (told : shop.chronicle limit handle sink =
      earlier ++ .began station statement moment :: later) :
    (shop.renderInto limit handle sink).2.catalogue.Knows handle station.handle ∧
      station.template.WellFormed := by
  obtain ⟨known, -, holds, -⟩ := Workshop.begun_in_chronicle told
  have knownLast := holds.knows known
  exact ⟨knownLast,
    ((Workshop.ready_renderInto ready limit sink).compiled_of_knows knownLast).wellFormed⟩

/-- An event counts for a cycle tag if it executes that very tag. -/
theorem cycleTag?_iff {earlier later : List Event} {station : Station} {number : Nat}
    {first : Expr} {others : List Expr} {moment : World}
    (told : shop.chronicle limit handle sink =
      earlier ++ .began station (.cycle number first others) moment :: later)
    {event : Event} (before : event ∈ earlier) :
    event.cycleTag? = some ⟨station.handle.serial, number⟩ ↔
      event.Executes station.handle (.cycle number first others) := by
  constructor
  · intro counts
    unfold Event.cycleTag? at counts
    split at counts
    · rename_i other same item rest world
      obtain ⟨serial, rfl⟩ := CycleTag.mk.inj (Option.some.inj counts)
      obtain ⟨start, between, split⟩ := List.append_of_mem before
      have toldBefore : shop.chronicle limit handle sink = start ++
          .began other (.cycle same item rest) world ::
            (between ++ .began station (.cycle same first others) moment :: later) := by
        simp [told, split]
      obtain ⟨known, wellFormed⟩ := ready.knows_of_begun told
      obtain ⟨knownBefore, -⟩ := ready.knows_of_begun toldBefore
      have readyLast := Workshop.ready_renderInto ready limit sink
      have sameHandle := readyLast.eq_of_serial knownBefore known serial
      have isPart := (Workshop.begun_in_chronicle told).2.1
      have isPartBefore : .cycle same item rest ∈ station.template.parts := by
        rw [Station.template, ← sameHandle]
        exact (Workshop.begun_in_chronicle toldBefore).2.1
      exact ⟨other, world, by rw [wellFormed.eq_of_number isPart isPartBefore], sameHandle⟩
    · cases counts
  · rintro ⟨other, world, rfl, same⟩
    simp [Event.cycleTag?, same]

/-- The turn of a cycle tag is how often it was executed before. -/
theorem count_eq_executions {earlier later : List Event} {station : Station} {number : Nat}
    {first : Expr} {others : List Expr} {moment : World}
    (told : shop.chronicle limit handle sink =
      earlier ++ .began station (.cycle number first others) moment :: later) :
    moment.turns.count ⟨station.handle.serial, number⟩ =
      Event.executions station.handle (.cycle number first others) earlier := by
  rw [(Workshop.begun_in_chronicle told).2.2.2, Event.executions]
  refine List.countP_congr fun event before => ?_
  simpa using ready.cycleTag?_iff told before

end Catalogue.Ready

/-- A cycle tag writes the item whose turn it is, and counts the execution. -/
theorem Stmt.execute_cycle (expand : Expansion) {station : Station} {number turn : Nat}
    {first item : Expr} {others : List Expr} {world : World}
    (counted : world.turns.count ⟨station.handle.serial, number⟩ = turn)
    (next : (first :: others)[turn % (first :: others).length]? = some item) :
    (Stmt.cycle number first others).execute expand station world =
      (do station.emit (← Run.evaluate item) : Run Unit)
        { world with turns := world.turns.advance ⟨station.handle.serial, number⟩ } := by
  subst counted
  let tag : CycleTag := ⟨station.handle.serial, number⟩
  have executed : (Stmt.cycle number first others).execute expand station world =
      (do station.emit (← Run.evaluate
          ((first :: others)[world.turns.count tag % (first :: others).length]?.getD first)) :
        Run Unit) { world with turns := world.turns.advance tag } := rfl
  rw [executed, next, Option.getD_some]

namespace Session

/-- Whatever a session was used for, in every rendering of what it offers, of the
executions of a cycle tag the first writes its first item, and each later one the item
behind that of the one before, or the first one again behind the last. What counts are the
executions of that tag of that template in that rendering, and templates that a rendering
comes to are the same if they have the same name. -/
theorem cycles_go_round (steps : List Step) (shop : Workshop) (handle : Handle) (limit : Nat)
    (sink : Sink) (offers : (Session.empty.prepare steps).2.Offers handle shop.catalogue) :
    let events := shop.chronicle limit handle sink
    (∀ station goal, (expandTold limit station goal).run = expand limit station goal) ∧
    (∀ earlier later station number first others world,
      events = earlier ++ .began station (.cycle number first others) world :: later →
      let turn := Event.executions station.handle (.cycle number first others) earlier
      ∃ item, (first :: others)[turn % (first :: others).length]? = some item ∧
        ∀ expand, (Stmt.cycle number first others).execute expand station world =
          (do station.emit (← Run.evaluate item) : Run Unit)
            { world with turns := world.turns.advance ⟨station.handle.serial, number⟩ }) ∧
    (∀ station statement world, .began station statement world ∈ events →
      statement ∈ station.template.parts ∧ (station.template.cycles.map Prod.fst).Nodup) ∧
    ∀ station other statement following world later,
      .began station statement world ∈ events → .began other following later ∈ events →
      station.template.name = other.template.name → station.handle = other.handle := by
  intro events
  have ready := ready_of_steps steps offers
  have knows : ∀ station statement world, .began station statement world ∈ events →
      (shop.renderInto limit handle sink).2.catalogue.Knows handle station.handle ∧
        statement ∈ station.template.parts ∧ station.template.WellFormed := by
    intro station statement world member
    obtain ⟨earlier, later, split⟩ := List.append_of_mem member
    obtain ⟨known, wellFormed⟩ := ready.knows_of_begun split
    exact ⟨known, (Workshop.begun_in_chronicle split).2.1, wellFormed⟩
  refine ⟨run_expandTold limit, ?_, ?_, ?_⟩
  · intro earlier later station number first others world told turn
    have bound : turn % (first :: others).length < (first :: others).length :=
      Nat.mod_lt _ (Nat.succ_pos _)
    have next := List.getElem?_eq_getElem bound
    exact ⟨_, next, fun expand => Stmt.execute_cycle expand (ready.count_eq_executions told) next⟩
  · intro station statement world member
    obtain ⟨-, isPart, wellFormed⟩ := knows station statement world member
    exact ⟨isPart, wellFormed.numbered⟩
  · intro station other statement following world later member memberToo same
    exact (Workshop.ready_renderInto ready limit sink).eq_of_name
      (knows station statement world member).1 (knows other following later memberToo).1 same

/-- A page that includes a part twice, both with a cycle tag in the same place. -/
def cycling : List Step := [
  .addTemplate "part" (Source.tag "cycle 1 2 3"),
  .addTemplate "page" (Source.tag "cycle 7 8" ++ Source.tag "include 'part'" ++
    Source.tag "include 'part'")]

/-- In the page the cycle tags go round, each by itself: the part is executed twice, and the
chronicle tells that the second execution of its tag writes the second item. -/
theorem cycling_goes_round : ∃ handle session,
    (Session.empty.prepare cycling).2.obtain? (.name "page" none) = .ok (handle, session) ∧
      (session.shop.renderInto 4 handle (.buffer "")).2.sink.text = "712" ∧
      ∀ earlier later station number first others world,
        session.shop.chronicle 4 handle (.buffer "") =
            earlier ++ .began station (.cycle number first others) world :: later →
          ∃ item, (first :: others)[Event.executions station.handle (.cycle number first others)
              earlier % (first :: others).length]? = some item ∧
            ∀ expand, (Stmt.cycle number first others).execute expand station world =
              (do station.emit (← Run.evaluate item) : Run Unit)
                { world with turns := world.turns.advance ⟨station.handle.serial, number⟩ } := by
  have renders : ((Session.empty.prepare cycling).2.obtain? (.name "page" none)).toOption.map
      (fun given => (given.2.shop.renderInto 4 given.1 (.buffer "")).2.sink.text) =
        some "712" := by
    decide +kernel
  cases given : (Session.empty.prepare cycling).2.obtain? (.name "page" none) with
  | error answer =>
    rw [given] at renders
    cases renders
  | ok made =>
    obtain ⟨handle, session⟩ := made
    rw [given] at renders
    have round := cycles_go_round cycling session.shop handle 4 (.buffer "") (.obtained given)
    exact ⟨handle, session, rfl, Option.some.inj renders, round.2.1⟩

end Session

end Stencil
