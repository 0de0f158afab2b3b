import Stencil.Proofs.Chronicle.Emissions

/-!
# Tabbing reaches one policy

A region with tabbing switches it on for the policy that is active where the region
stands. A region inside of it changes nothing, whatever policy is active there. So where a
value is escaped within regions with tabbing, it depends on the outermost of them whether
the policy that escapes it was told: it was if it is the one that was active there, and
otherwise it was not.
-/

namespace Stencil

namespace EscapePolicy

/-- Tabbing is on if that is what was told last. -/
theorem isTabbing_eq (uses : List EscapeUse) :
    isTabbing uses = (EscapeUse.switches uses).getLast?.getD false := by
  induction uses with
  | nil => rfl
  | cons use earlier inductionHypothesis =>
    have appended := EscapeUse.switches_append [use] earlier
    rw [List.singleton_append] at appended
    cases use with
    | escaped text =>
      rw [appended, isTabbing, inductionHypothesis]
      simp [EscapeUse.switches]
    | tabbing on =>
      rw [appended, isTabbing]
      simp [EscapeUse.switches]

/-- Uses that tell nothing of tabbing leave it as it was. -/
theorem isTabbing_append_of_silent {later : List EscapeUse}
    (silent : EscapeUse.switches later = []) (earlier : List EscapeUse) :
    isTabbing (later ++ earlier) = isTabbing earlier := by
  rw [isTabbing_eq, isTabbing_eq, EscapeUse.switches_append, silent, List.append_nil]

/-- Where tabbing is switched by turns, it is on only if it was and nothing was told. -/
theorem isTabbing_append_of_told {later earlier : List EscapeUse}
    (told : EscapeUse.Told false later) (on : isTabbing (later ++ earlier) = true) :
    isTabbing earlier = true := by
  cases last : (EscapeUse.switches later).getLast? with
  | none =>
    rwa [isTabbing_append_of_silent (List.getLast?_eq_none_iff.mp last)] at on
  | some switch =>
    cases switch with
    | true => exact absurd last told.alternate.getLast?_ne
    | false =>
      rw [isTabbing_eq, EscapeUse.switches_append, List.getLast?_append, last] at on
      cases on

end EscapePolicy

/-- A region with tabbing that is told of, and lies within no other one that is. -/
structure Moment.Outermost (region : Moment) (events : List Event) : Prop where
  told : region.event ∈ events
  switches : region.statement.isTabbing = true
  outermost : ∀ outer : Moment, outer.event ∈ events → region.Within outer →
    outer.statement.isTabbing = false

namespace Workshop

variable {shop : Workshop} {limit : Nat} {handle : Handle} {sink : Sink}
  {moment region : Moment} {extension : String}

/-- Tabbing is off outside of regions with tabbing. -/
theorem tabbing_of_told (told : moment.event ∈ shop.chronicle limit handle sink) :
    moment.station.tabbing = false ∨ ∃ outer : Moment,
      outer.event ∈ shop.chronicle limit handle sink ∧ outer.statement.isTabbing = true ∧
        outer.station.tabbing = false ∧ moment.Within outer := by
  have keeps := Observance.switching_sound.follows limit false (.start handle) .whole rfl
  rcases (keeps _).2 moment told with sees | ⟨outer, toldOuter, ⟨-, isTabbing, off⟩, within⟩
  · exact Or.inl sees
  · exact Or.inr ⟨outer, toldOuter, isTabbing, off, within⟩

/-- Where an outermost region with tabbing stands, tabbing is off. -/
theorem off_of_outermost (outermost : region.Outermost (shop.chronicle limit handle sink)) :
    region.station.tabbing = false := by
  rcases tabbing_of_told outermost.told with off | ⟨outer, told, isTabbing, -, within⟩
  · exact off
  · exact absurd ((outermost.outermost outer told within).symm.trans isTabbing) (by simp)

/-- What lies within a region with tabbing lies within an outermost one. -/
theorem exists_outermost (told : moment.event ∈ shop.chronicle limit handle sink)
    (isTabbing : region.statement.isTabbing = true) (within : moment.Within region) :
    ∃ outer : Moment, outer.Outermost (shop.chronicle limit handle sink) ∧
      moment.Within outer := by
  rcases tabbing_of_told told with off | ⟨outer, toldOuter, isTabbing, off, around⟩
  · rw [within.tabbing isTabbing] at off
    cases off
  · refine ⟨outer, ⟨toldOuter, isTabbing, fun other _ inOther => ?_⟩, around⟩
    refine Bool.eq_false_iff.mpr fun isTabbing => ?_
    rw [inOther.tabbing isTabbing] at off
    cases off

/-- At an outermost region with tabbing, the policies were told of it by turns. -/
theorem heard_of_outermost (outermost : region.Outermost (shop.chronicle limit handle sink))
    (extension : String) : ∃ uses, EscapeUse.Told false uses ∧
      region.world.context.escapers.get? extension =
        (shop.context.escapers.get? extension).map fun escaper => escaper.after uses := by
  have keeps := (Observance.hearing_sound false).follows limit () (.start handle) .whole rfl
  rcases (keeps _).2 region outermost.told with sees | ⟨outer, told, ⟨-, isTabbing, -⟩, within⟩
  · exact sees extension
  · exact absurd ((outermost.outermost outer told within).symm.trans isTabbing) (by simp)

end Workshop

/-- Within a region that switches tabbing on, policies were told what they were told before
it, and that it is on if they were active there; and nothing since. -/
theorem Moment.Within.heard {moment region : Moment} (within : moment.Within region)
    (isTabbing : region.statement.isTabbing = true) (off : region.station.tabbing = false)
    (extension : String) : ∃ uses, EscapeUse.switches uses = [] ∧
      moment.world.context.escapers.get? extension =
        (region.world.context.escapers.get? extension).map fun escaper =>
          escaper.after (uses ++
            if region.world.context.active = some extension then [.tabbing true] else []) := by
  obtain ⟨depth, told⟩ := within
  obtain ⟨station, statement, world⟩ := region
  cases statement with
  | within kind body =>
    cases kind with
    | tabbing =>
      have keeps : (Observance.hearing true).tenor.Keeps ()
          (executeAllTold (expandTold depth) { station with tabbing := true } body) :=
        (Observance.hearing_sound true).executeAll depth body rfl
      rcases (keeps _).2 moment (told_of_tabbing off told) with sees | ⟨_, _, ⟨impossible, _⟩, _⟩
      · obtain ⟨uses, told, found⟩ := sees extension
        refine ⟨uses, told.silent rfl, ?_⟩
        have switched := world.context.get?_switchTabbing true extension
        rw [found, show (Run.switchTabbing true world).context.escapers.get? extension = _ from
          switched, Option.map_map]
        simp [Function.comp_def, Escaper.after]
      · cases impossible
    | _ => cases isTabbing
  | _ => cases isTabbing

namespace Workshop

variable {shop : Workshop} {limit : Nat} {handle : Handle} {sink : Sink}
  {moment region : Moment} {extension : String}

/-- A value that is written within a region with tabbing, and is escaped by a policy there,
lies within outermost ones. If the policy is the one that was active where such a one stands
then tabbing is on for it when it escapes the value; if not then it is on only if it was on
before the rendering. -/
theorem tabbing_reaches_policy {value : Value} {before : World} {escaper : Escaper}
    (told : moment.event ∈ shop.chronicle limit handle sink)
    (isTabbing : region.statement.isTabbing = true) (within : moment.Within region)
    (emits : moment.emission? = some (value, before)) (plain : value.raw = false)
    (loud : moment.station.escaping = true)
    (active : before.context.activeEscaper? = some (extension, escaper)) :
    (∀ expand, moment.statement.execute expand moment.station moment.world =
      Run.write (escaper.escape value.written).1 { before with context := { before.context with
        escapers := before.context.escapers.put extension
          (escaper.escape value.written).2 } }) ∧
    (∃ outer : Moment, outer.Outermost (shop.chronicle limit handle sink) ∧
      moment.Within outer) ∧
    ∀ outer : Moment, outer.Outermost (shop.chronicle limit handle sink) →
      moment.Within outer →
        (outer.world.context.active = some extension →
          EscapePolicy.isTabbing escaper.uses = true) ∧
        (EscapePolicy.isTabbing escaper.uses = true →
          outer.world.context.active = some extension ∨
            ∃ registered, shop.context.escapers.get? extension = some registered ∧
              EscapePolicy.isTabbing registered.uses = true) := by
  refine ⟨fun expand => ?_, exists_outermost told isTabbing within, ?_⟩
  · rw [Moment.execute_of_emission emits expand]
    exact Station.emit_of_active loud plain active
  intro outer outermost around
  obtain ⟨earlier, toldEarlier, foundOuter⟩ := heard_of_outermost outermost extension
  obtain ⟨later, silent, found⟩ :=
    around.heard outermost.switches (off_of_outermost outermost) extension
  have here := (Context.activeEscaper?_eq_some active).2
  rw [Moment.context_of_emission emits, found, foundOuter, Option.map_map] at here
  obtain ⟨registered, atStart, rfl⟩ := Option.map_eq_some_iff.mp here
  have heard : EscapePolicy.isTabbing (((registered.after earlier).after (later ++
      if outer.world.context.active = some extension then [.tabbing true] else [])).uses) =
      EscapePolicy.isTabbing ((if outer.world.context.active = some extension
        then [.tabbing true] else []) ++ (earlier ++ registered.uses)) := by
    simp only [Escaper.after, List.append_assoc]
    exact EscapePolicy.isTabbing_append_of_silent silent _
  constructor
  · intro isActive
    rw [Function.comp_apply, heard, if_pos isActive]
    rfl
  · intro on
    by_cases isActive : outer.world.context.active = some extension
    · exact Or.inl isActive
    · rw [Function.comp_apply, heard, if_neg isActive] at on
      exact Or.inr ⟨registered, atStart, EscapePolicy.isTabbing_append_of_told toldEarlier on⟩

/-- Of a template of one statement the statement is told, and what lies within it. -/
theorem chronicle_of_only {statement : Stmt} (only : handle.template.executed = [statement]) :
    let region : Moment := ⟨.start handle, statement, { shop with turns := [], sink := sink }⟩
    shop.chronicle (limit + 1) handle sink = region.event :: region.inside limit := by
  intro region
  have told : shop.chronicle (limit + 1) handle sink =
      (executeAllTold (expandTold limit) (.start handle) handle.template.executed).events
        { shop with turns := [], sink := sink } := rfl
  have ends : (executeAllTold (expandTold limit) (.start handle) [statement]).events region.world =
      (statement.executeTold (expandTold limit) (.start handle)).events region.world := by
    show (_ >>= _ : Account Unit).events _ = _
    rw [Account.events_bind]
    split <;> exact List.append_nil _
  rw [told, only, ends, ← Moment.events_executeTold]

end Workshop

namespace Session

/-- A page with a region with tabbing inside of another one, under a policy that hears
about tabbing. -/
def indented : List Step := [
  .addTemplate "page" (Source.tag "tabbing" ++ Source.tag "tabbing" ++ Source.hole "x" ++
    Source.tag "endtabbing" ++ Source.tag "endtabbing"),
  .setEscapePolicy "b" .tab,
  .selectPolicy "b",
  .set "x" (.text "1\n2")]

/-- The first moment at which a value is written, if the page is one region with tabbing
and a policy is active then; with the value and the world then, and the policy. -/
def firstEscape? (handle : Handle) (session : Session) :
    Option (Stmt × Moment × Value × World × String × Escaper) := do
  let [statement] := handle.template.executed | none
  let moment ← (Event.moments (session.shop.chronicle 4 handle (.buffer ""))).find?
    (·.emission?.isSome)
  let (value, before) ← moment.emission?
  let (extension, escaper) ← before.context.activeEscaper?
  return (statement, moment, value, before, extension, escaper)

/-- The moment lies within the region, if that is one. -/
theorem within_of_firstEscape {handle : Handle} {session : Session} {statement : Stmt}
    {moment : Moment} {value : Value} {before : World} {extension : String} {escaper : Escaper}
    (first : firstEscape? handle session =
      some (statement, moment, value, before, extension, escaper))
    (isTabbing : statement.isTabbing = true) :
    let region : Moment := ⟨.start handle, statement,
      { session.shop with turns := [], sink := .buffer "" }⟩
    region.Outermost (session.shop.chronicle 4 handle (.buffer "")) ∧ moment.Within region ∧
      moment.event ∈ session.shop.chronicle 4 handle (.buffer "") ∧
      moment.emission? = some (value, before) ∧
      before.context.activeEscaper? = some (extension, escaper) := by
  intro region
  unfold firstEscape? at first
  split at first
  · rename_i only
    obtain ⟨_, isMoment, rest⟩ := Option.bind_eq_some_iff.mp first
    obtain ⟨⟨_, _⟩, emits, rest⟩ := Option.bind_eq_some_iff.mp rest
    obtain ⟨⟨_, _⟩, active, same⟩ := Option.bind_eq_some_iff.mp rest
    cases same
    have told := Event.mem_moments.mp (List.mem_of_find?_eq_some isMoment)
    have chronicle : session.shop.chronicle 4 handle (.buffer "") = _ :=
      Workshop.chronicle_of_only only
    refine ⟨⟨?_, isTabbing, fun outer _ around => ?_⟩, ⟨3, ?_⟩, told, emits, active⟩
    · rw [chronicle]
      exact List.mem_cons_self
    · refine Bool.eq_false_iff.mpr fun outerTabbing => ?_
      cases around.tabbing outerTabbing
    · rw [chronicle] at told
      rcases List.mem_cons.mp told with isRegion | inside
      · -- The region writes no value itself.
        cases Moment.event_injective isRegion
        cases statement with
        | within kind body => cases emits
        | _ => cases isTabbing
      · exact inside
  · cases first

/-- Tabbing is on when the value in both regions is escaped. -/
theorem indented_hears : ∃ (handle : Handle) (session : Session) (region moment : Moment)
    (value : Value) (before : World) (escaper : Escaper),
    (Session.empty.prepare indented).2.obtain? (.name "page" none) = .ok (handle, session) ∧
      region.Outermost (session.shop.chronicle 4 handle (.buffer "")) ∧ moment.Within region ∧
      moment.emission? = some (value, before) ∧
      before.context.activeEscaper? = some ("b", escaper) ∧
      EscapePolicy.isTabbing escaper.uses = true := by
  have circumstances : (page? indented).bind (fun given =>
      (firstEscape? given.1 given.2).map fun first =>
        (first.1.isTabbing, first.2.1.station.escaping, first.2.2.1.raw, first.2.2.2.2.1,
          given.2.shop.context.active)) =
      some (true, true, false, "b", some "b") := by
    decide +kernel
  obtain ⟨⟨handle, session⟩, given, rest⟩ := Option.bind_eq_some_iff.mp circumstances
  obtain ⟨⟨statement, moment, value, before, extension, escaper⟩, first, same⟩ :=
    Option.map_eq_some_iff.mp rest
  simp only [Prod.mk.injEq] at same
  obtain ⟨isTabbing, loud, plain, rfl, active⟩ := same
  obtain ⟨outermost, within, told, emits, escapes⟩ := within_of_firstEscape first isTabbing
  have reaches := Workshop.tabbing_reaches_policy told isTabbing within emits plain loud escapes
  exact ⟨handle, session, _, moment, value, before, escaper, obtained_of_page given, outermost,
    within, emits, escapes, (reaches.2.2 _ outermost within).1 active⟩

/-- A page that creates a file in a region with tabbing, with another such region in it. -/
def unindented : List Step := [
  .addTemplate "part" (Source.tag "tabbing" ++ Source.hole "x" ++ Source.tag "endtabbing"),
  .addTemplate "page" (Source.tag "tabbing" ++ Source.tag "create 'x.b' from 'part'" ++
    Source.tag "endtabbing"),
  .setOutputDirectory "out",
  .setEscapePolicy "b" .tab,
  .set "x" (.text "1\n2")]

/-- The policy for the created file is not told of tabbing, although the value stands in a
region with tabbing there, and is escaped by that policy. -/
theorem unindented_unheard : fileOf unindented "out/x.b" = some "1\n2" ∧
    EscapePolicy.tab.escape [.tabbing true] "1\n2" = "1\n\t2" := by
  decide +kernel

end Session

end Stencil
