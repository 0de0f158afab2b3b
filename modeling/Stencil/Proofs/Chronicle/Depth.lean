import Stencil.Proofs.Chronicle.Soundness
import Stencil.Proofs.Sessions
import Stencil.Proofs.Streaming

/-!
# The tags that led to a fault

At every moment of a rendering the tags are underway whose templates were entered and not
left again. There are never more of them than the depth limit allows, and a fault tells of
those that are underway where it strikes, outermost first. If it is about a template that
does not compile or cannot be read, then it tells last of the tag that asked for it.
-/

namespace Stencil

namespace Event

/-- The tags that are underway after an event. -/
def advance (gates : List Gate) : Event → List Gate
  | began _ _ _ => gates
  | entered gate _ => gates ++ [gate]
  | left _ => gates.dropLast
  | barred _ => gates

/-- The tag whose template cannot be had. -/
def barred? : Event → Option Gate
  | barred gate => some gate
  | _ => none

/-- The tags that are underway after some events, outermost first. -/
def underway (events : List Event) : List Gate := events.foldl advance []

end Event

namespace Course

variable {root : Handle} {gates reached : List Gate} {world after : World} {events : List Event}

/-- An event leads to the tags that are underway after it. -/
theorem advance_of_happens {event : Event}
    (happens : event.Happens root gates world reached after) : event.advance gates = reached := by
  cases happens with
  | begin => rfl
  | enter => rfl
  | leave => exact List.dropLast_concat

/-- No more tags are underway after an event than the depth limit allows, if no more were
before it. -/
theorem length_of_happens {event : Event} (happens : event.Happens root gates world reached after)
    (within : gates.length ≤ world.catalogue.depthLimit) :
    reached.length ≤ after.catalogue.depthLimit := by
  cases happens with
  | begin _ _ _ same _ =>
    rw [same]
    exact within
  | enter shallow =>
    rw [List.length_append]
    exact shallow
  | leave =>
    rw [List.length_append] at within
    exact Nat.le_of_succ_le within

/-- A course leads to the tags that are underway after its events. -/
theorem foldl_advance (course : Course root gates world events reached after) :
    events.foldl Event.advance gates = reached := by
  induction course with
  | still => rfl
  | quietly _ _ _ inductionHypothesis => exact inductionHypothesis
  | eventfully happens _ inductionHypothesis =>
    rw [List.foldl_cons, advance_of_happens happens]
    exact inductionHypothesis

/-- At no moment of a course are more tags underway than the depth limit allows. -/
theorem length_underway (course : Course root gates world events reached after)
    (within : gates.length ≤ world.catalogue.depthLimit) {earlier : List Event}
    (moment : earlier <+: events) :
    (earlier.foldl Event.advance gates).length ≤ world.catalogue.depthLimit := by
  induction course generalizing earlier with
  | still =>
    rw [List.prefix_nil.mp moment]
    exact within
  | quietly holds _ _ inductionHypothesis =>
    rw [← holds.depthLimit] at within ⊢
    exact inductionHypothesis within moment
  | @eventfully _ _ _ _ middle _ event _ happens course inductionHypothesis =>
    rcases List.prefix_cons_iff.mp moment with rfl | ⟨others, rfl, later⟩
    · exact within
    · have one : Course root _ _ [event] _ middle := .eventfully happens .still
      rw [List.foldl_cons, advance_of_happens happens, ← one.holds.depthLimit]
      exact inductionHypothesis (length_of_happens happens within) later

/-- No tag is barred in a course. -/
theorem filterMap_barred? (course : Course root gates world events reached after) :
    events.filterMap Event.barred? = [] := by
  induction course with
  | still => rfl
  | quietly _ _ _ inductionHypothesis => exact inductionHypothesis
  | eventfully happens _ inductionHypothesis =>
    cases happens <;> exact inductionHypothesis

/-- The tags that are underway stand in their templates. -/
theorem placed (course : Course root gates world events reached after)
    (placed : ∀ gate ∈ gates, gate.Placed) : ∀ gate ∈ reached, gate.Placed := by
  induction course with
  | still => exact placed
  | quietly _ _ _ inductionHypothesis => exact inductionHypothesis placed
  | eventfully happens _ inductionHypothesis =>
    refine inductionHypothesis fun gate member => ?_
    cases happens with
    | begin => exact placed gate member
    | enter _ isPlaced =>
      rcases List.mem_append.mp member with before | isThis
      · exact placed gate before
      · exact List.mem_singleton.mp isThis ▸ isPlaced
    | leave => exact placed gate (List.mem_append_left _ member)

section Barred

variable {told : List Event}

/-- A tag that is barred after a course does not come to be underway. -/
theorem underway_behind (course : Course root [] world told reached after)
    (refused : Option Gate) :
    Event.underway (told ++ (refused.map Event.barred).toList) = reached := by
  simp only [Event.underway, List.foldl_append, course.foldl_advance]
  cases refused <;> rfl

/-- The tag that is barred after a course is the only one. -/
theorem barred_behind (course : Course root gates world told reached after)
    (refused : Option Gate) :
    (told ++ (refused.map Event.barred).toList).filterMap Event.barred? = refused.toList := by
  rw [List.filterMap_append, course.filterMap_barred?]
  cases refused <;> rfl

/-- No more tags are underway than the depth limit allows up to the moment when a tag is
barred after a course. -/
theorem length_underway_behind (course : Course root [] world told reached after)
    (refused : Option Gate) {earlier : List Event}
    (moment : earlier <+: told ++ (refused.map Event.barred).toList) :
    (Event.underway earlier).length ≤ world.catalogue.depthLimit := by
  have during : earlier <+: told → (Event.underway earlier).length ≤ world.catalogue.depthLimit :=
    course.length_underway (Nat.zero_le _)
  cases refused with
  | none => exact during (by simpa using moment)
  | some gate =>
    rcases List.prefix_concat_iff.mp moment with rfl | before
    · have last := course.length_underway (Nat.zero_le _) List.prefix_rfl
      simpa [Event.underway, Event.advance] using last
    · exact during before

end Barred

end Course

namespace Workshop

/-- A rendering to a text never fails because a text was not taken. -/
theorem cause_of_render {shop : Workshop} {handle : Handle} {fault : Fault}
    (failed : (shop.render handle).1 = .error (.fault fault)) : fault.cause ≠ .unwritten := by
  obtain ⟨result, after, _, explains, rendered⟩ := shop.emits_renderInto handle
  rw [rendered] at failed
  cases result with
  | ok value => cases failed
  | error halt =>
    cases failed
    exact explains

/-- A rendering to a text fails with what halted the execution. -/
theorem renderInto_of_failed {shop : Workshop} {handle : Handle} {halt : Halt}
    (failed : (shop.render handle).1 = .error halt) :
    (shop.renderInto expansionLimit handle (.buffer "")).1 = .error halt := by
  cases result : (shop.renderInto expansionLimit handle (.buffer "")).1 with
  | ok value => simp [render, result, Except.map] at failed
  | error halt => simpa [render, result, Except.map] using failed

/-- The chronicle that is told of a rendering to a text is that of what the rendering does.
At no moment are more tags underway than the depth limit allows, and none is after a
success. The chain of a fault consists of the tags that are underway where it strikes,
outermost first, and of the one whose template does not compile or cannot be read, if that
is what the fault is about; each with the title of the template that it stands in, and its
line there. -/
theorem chain_of_render (shop : Workshop) (handle : Handle) :
    let events := shop.chronicle expansionLimit handle (.buffer "")
    let barred := events.filterMap Event.barred?
    let limit := shop.catalogue.depthLimit
    (∀ station goal, (expandTold expansionLimit station goal).run =
      expand expansionLimit station goal) ∧
    (∀ earlier, earlier <+: events → (Event.underway earlier).length ≤ limit) ∧
    (∀ text, (shop.render handle).1 = .ok text → Event.underway events = [] ∧ barred = []) ∧
    ∀ fault, (shop.render handle).1 = .error (.fault fault) →
      fault.chain = (Event.underway events ++ barred).map Gate.site ∧
      (∀ gate ∈ Event.underway events ++ barred, gate.Placed) ∧
      (fault.cause.kind = .syntactic → barred ≠ []) ∧
      (barred ≠ [] → fault.cause.kind = .syntactic ∨ fault.cause.kind = .io) ∧
      (barred = [] → fault.chain.length ≤ limit) ∧ fault.chain.length ≤ limit + 1 := by
  intro events barred limit
  obtain ⟨told, reached, refused, same, course, ending⟩ :=
    shop.chronicle_course expansionLimit handle (.buffer "")
  have isUnderway : Event.underway events = reached :=
    (congrArg _ same).trans (course.underway_behind refused)
  have isBarred : barred = refused.toList :=
    (congrArg _ same).trans (course.barred_behind refused)
  have moments : ∀ earlier, earlier <+: events → (Event.underway earlier).length ≤ limit :=
    fun earlier moment => course.length_underway_behind refused (same ▸ moment)
  have shallow : reached.length ≤ limit := isUnderway ▸ moments events List.prefix_rfl
  have placed := course.placed (fun _ impossible => nomatch impossible)
  refine ⟨run_expandTold expansionLimit, moments, ?_, ?_⟩
  · intro text rendered
    rw [(render_eq_ok (Prod.ext rendered rfl)).1] at ending
    rw [isUnderway, isBarred, ending.1, ending.2]
    exact ⟨rfl, rfl⟩
  · intro fault failed
    have taken := cause_of_render failed
    rw [renderInto_of_failed failed] at ending
    rw [isUnderway, isBarred]
    cases refused with
    | none =>
      obtain ⟨chain, other⟩ := ending taken
      have length : fault.chain.length = reached.length := by rw [chain, List.length_map]
      simp only [Option.toList_none, List.append_nil]
      refine ⟨chain, placed, fun flawed => absurd flawed other,
        fun impossible => absurd rfl impossible, fun _ => length ▸ shallow,
        Nat.le_succ_of_le (length ▸ shallow)⟩
    | some gate =>
      obtain ⟨isPlaced, chain, kind⟩ := ending
      have length : fault.chain.length = reached.length + 1 := by
        rw [chain, List.length_map, List.length_append, List.length_singleton]
      refine ⟨chain, fun other member => ?_, fun _ => by simp, fun _ => kind, by simp,
        length ▸ Nat.succ_le_succ shallow⟩
      rcases List.mem_append.mp member with before | isThis
      · exact placed other before
      · simp only [Option.toList_some, List.mem_singleton] at isThis
        exact isThis ▸ isPlaced

/-- A template that includes itself is stopped where the limit is reached. -/
example :
    let session := (Session.empty.prepare
      [.setDepthLimit 2, .addTemplate "a" ("\n" ++ Source.tag "include 'a'")]).2
    (session.obtain? (.name "a" none)).toOption.map (fun given =>
      match (given.2.shop.render given.1).1 with
      | .error (.fault fault) => fault.chain
      | _ => []) = some [⟨"a", 2⟩, ⟨"a", 2⟩] := by
  decide +kernel

end Workshop

end Stencil
