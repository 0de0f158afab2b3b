import Stencil.Rendering.Execution

/-!
# Rendering

A template is rendered to a text, or to a device that may refuse to take all of
it. A rendering uses the workshop and leaves it behind for the next one. It is
allowed so many expansions inside one another that only a rendering without end
needs more.
-/

namespace Stencil

/-- How many goals a rendering may expand inside one another. -/
def expansionLimit : Nat := 1000000

namespace Workshop

/-- Renders a template into a sink. -/
def renderInto (shop : Workshop) (limit : Nat) (handle : Handle) (sink : Sink) :
    Except Halt Unit × World :=
  expand limit (.start handle) .whole { shop with turns := [], sink := sink }

/-- Renders a template to a text. -/
def render (shop : Workshop) (handle : Handle) : Except Halt String × Workshop :=
  let done := shop.renderInto expansionLimit handle (.buffer "")
  (done.1.map fun _ => done.2.sink.text, done.2.toWorkshop)

/-- A rendering that succeeded has executed the whole template, and gives what was
written. -/
theorem render_eq_ok {shop after : Workshop} {handle : Handle} {text : String}
    (rendered : shop.render handle = (.ok text, after)) :
    (shop.renderInto expansionLimit handle (.buffer "")).1 = .ok () ∧
      (shop.renderInto expansionLimit handle (.buffer "")).2.sink.text = text := by
  have same := (Prod.mk.inj rendered).1
  cases result : (shop.renderInto expansionLimit handle (.buffer "")).1 with
  | error halt => simp [result, Except.map] at same
  | ok value => exact ⟨rfl, by simpa [result, Except.map] using same⟩

/-- Renders a template to a device, and tells which bytes it took. If the device refused,
what it said takes the place of the fault that the rendering ended with. -/
def renderToDevice (shop : Workshop) (handle : Handle) (device : Device) :
    Except Halt Unit × ByteArray × Workshop :=
  let done := shop.renderInto expansionLimit handle (.device device none)
  (done.1.mapError fun halt => match done.2.sink.said? with
      | some said => .fault (.ofCause (.device said))
      | none => halt,
    done.2.sink.bytes, done.2.toWorkshop)

end Workshop

end Stencil
