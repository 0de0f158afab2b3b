import Stencil.Data
import Stencil.Rendering

/-!
# Sessions

A session is one workshop, with handles in named slots and with values that the
host shares under names. It is used step by step. Steps that change the catalogue
itself drop all handles first; every other step leaves them where they are. What
the journal gained in a step is reported with the answer.
-/

namespace Stencil

/-- A workshop with handles in slots and with shared values. -/
structure Session where
  shop : Workshop
  slots : Named Handle
  shared : Named Value

/-- Where a template to be rendered comes from. -/
inductive Origin where
  | slot (slot : String)
  | name (name : String) (line : Option Nat)
  | source (source : String)

/-- What can be done in a session. -/
inductive Step where
  | addTemplate (name source : String)
  | removeTemplate (name : String)
  | addFilter (name : String) (filter : Filter)
  | setDirectory (directory : String)
  | setDepthLimit (limit : Nat)
  | take (slot : String) (origin : Origin)
  | unload (slot : String)
  | inspect (slot : String)
  | evict
  | isShelved (name : String)
  | directory
  | describeCatalogue
  | render (origin : Origin)
  | renderData (slot : String) (data : Data)
  | renderToDevice (slot : String) (room : Nat) (refusal : FileError)
  | newContext
  | contextOf (data : Data)
  | set (name : String) (value : Value)
  | push
  | pop
  | get (name : String)
  | find (name : String)
  | setOutputDirectory (directory : String)
  | outputDirectory
  | setEscapePolicy (extension : String) (policy : EscapePolicy)
  | selectPolicy (extension : String)
  | setSpaceless (policy : SpacelessPolicy)
  | describeContext
  | setEntry (shared name : String) (value : Value)
  | removeEntry (shared name : String)
  | appendItem (shared : String) (value : Value)
  | writeFile (path : String) (bytes : ByteArray)
  | makeFolder (path : String)
  | listFiles (folder : String)

/-- What a step answers. `unknown` is the answer to a step about a slot or a
shared value that there is not. -/
inductive Answer where
  | done
  | truth (value : Bool)
  | number (count : Nat)
  | text (shown : String)
  | maybeText (shown : Option String)
  | value (value : Value)
  | maybeValue (value : Option Value)
  | handle (handle : Handle)
  | files (listing : List (String × Option ByteArray))
  | taken (bytes : ByteArray) (halt : Option Halt)
  | halted (halt : Halt)
  | unknown

/-- An answer with what the journal gained, in order. -/
structure Report where
  answer : Answer
  records : List Record
  notices : List Notice

namespace Answer

/-- The answer to what went wrong for a cause. -/
def ofCause (cause : Cause) : Answer := .halted (.fault (.ofCause cause))

/-- The answer is that something went wrong. -/
def isFailure : Answer → Bool
  | halted _ | unknown => true
  | _ => false

end Answer

namespace Session

/-- A session with nothing in it. -/
def empty : Session := ⟨⟨.empty, .empty, .empty⟩, [], []⟩

/-- Does what needs the host's side only. -/
def hosted {α : Type} (session : Session) (action : Hosted α) : α × Session :=
  let done := action session.shop.host
  (done.1, { session with shop := { session.shop with host := done.2 } })

/-- The session with another catalogue. -/
def withCatalogue (session : Session) (catalogue : Catalogue) : Session :=
  { session with shop := { session.shop with catalogue := catalogue } }

/-- The session with another context. -/
def withContext (session : Session) (context : Context) : Session :=
  { session with shop := { session.shop with context := context } }

/-- The session with other files. -/
def withFiles (session : Session) (files : Files) : Session :=
  { session with shop := { session.shop with host := { session.shop.host with files := files } } }

/-- Drops a handle. -/
def release (session : Session) (handle : Handle) : Session :=
  session.withCatalogue (session.shop.catalogue.release handle)

/-- Drops the handles in all slots. -/
def releaseAll (session : Session) : Session :=
  { session.slots.foldl (fun session entry => session.release entry.2) session with slots := [] }

/-- Puts a handle into a slot; one that was there is dropped. -/
def fill (session : Session) (slot : String) (handle : Handle) : Session :=
  let filled := { session with slots := session.slots.put slot handle }
  match session.slots.get? slot with
  | some earlier => filled.release earlier
  | none => filled

/-- Makes a handle, or tells why there is none. A handle to a template in a slot
is one more handle to the same template. -/
def obtain? (session : Session) : Origin → Except Answer (Handle × Session)
  | .slot slot =>
    match session.slots.get? slot with
    | some handle => .ok (handle, session.withCatalogue (session.shop.catalogue.retain handle))
    | none => .error .unknown
  | .name name line =>
    match session.shop.catalogue.load session.shop.host.files name line with
    | .ok loaded =>
      let noted := (session.withCatalogue loaded.catalogue).hosted (Host.note loaded.record)
      .ok (loaded.handle, noted.2)
    | .error fault => .error (.halted (.fault fault))
  | .source source =>
    match session.shop.catalogue.compile none source with
    | .ok (handle, catalogue) => .ok (handle, session.withCatalogue catalogue)
    | .error fault => .error (.halted (.fault fault))

/-- The answer to a rendering. -/
def rendered : Except Halt String → Answer
  | .ok text => .text text
  | .error halt => .halted halt

/-- Renders a template to a text and drops its handle. -/
def render (session : Session) (origin : Origin) : Answer × Session :=
  match session.obtain? origin with
  | .error answer => (answer, session)
  | .ok (handle, session) =>
    let done := session.shop.render handle
    (rendered done.1, { session with shop := done.2 }.release handle)

/-- Makes a value or a context of data, or tells why there is none. -/
def convert {α : Type} (session : Session) (conversion : Conversion α) :
    Except Cause α × Session :=
  session.hosted (Host.fresh conversion.run)

/-- Renders a template with a context made of data. -/
def renderData (session : Session) (slot : String) (data : Data) : Answer × Session :=
  match session.slots.get? slot with
  | none => (.unknown, session)
  | some handle =>
    match session.convert (Context.ofData data) with
    | (.error cause, session) => (.ofCause cause, session)
    | (.ok context, session) =>
      let done := { session.shop with context := context }.render handle
      (rendered done.1,
        { session with shop := { done.2 with context := session.shop.context } })

/-- Renders a template to a device. -/
def renderToDevice (session : Session) (slot : String) (room : Nat) (refusal : FileError) :
    Answer × Session :=
  match session.slots.get? slot with
  | none => (.unknown, session)
  | some handle =>
    let done := session.shop.renderToDevice handle (.greedy room refusal)
    let halt := match done.1 with
      | .ok () => none
      | .error halt => some halt
    (.taken done.2.1 halt, { session with shop := done.2.2 })

/-- Exchanges the contents under a mark wherever they are. -/
def renew (session : Session) (mark : Nat) (contents : Datum) : Session :=
  { session with
    shared := entriesRenewed mark contents session.shared
    shop := { session.shop with
      context := session.shop.context.renew mark contents
      host := session.shop.host.renew mark contents } }

/-- Changes the entries of a shared record. -/
def changeEntries (session : Session) (shared : String)
    (change : Named Value → Answer × Named Value) : Answer × Session :=
  match (session.shared.get? shared).map Value.datum with
  | some (.record mark listed entries) =>
    let changed := change entries
    (changed.1, session.renew mark (.record mark listed changed.2))
  | _ => (.unknown, session)

/-- Performs a step that changes the catalogue itself. -/
def changeCatalogue (session : Session) (change : Catalogue → Catalogue) : Answer × Session :=
  let session := session.releaseAll
  (.done, session.withCatalogue (change session.shop.catalogue))

/-- Performs a step that changes the context. -/
def changeContext (session : Session) (change : Context → Context) : Answer × Session :=
  (.done, session.withContext (change session.shop.context))

/-- Performs a step that changes the files under a path. -/
def changeFiles (session : Session) (changed : Except Cause Unit × Files) : Answer × Session :=
  match changed with
  | (.ok (), files) => (.done, session.withFiles files)
  | (.error cause, files) => (.ofCause cause, session.withFiles files)

/-- Adds a template, all handles being dropped. -/
def addTemplate (session : Session) (name source : String) : Answer × Session :=
  let session := session.releaseAll
  match session.shop.catalogue.addTemplate name source with
  | .ok catalogue => (.done, session.withCatalogue catalogue)
  | .error fault => (.halted (.fault fault), session)

/-- Takes the templates that nobody uses off the shelf, and notes each. -/
def evict (session : Session) : Answer × Session :=
  let unused := session.shop.catalogue.unused
  let noted := session.hosted (unused.forM fun name => Host.note (.evicted name))
  (.number unused.length, noted.2.withCatalogue session.shop.catalogue.evict)

/-- Performs a step. -/
def perform (session : Session) : Step → Answer × Session
  | .addTemplate name source => session.addTemplate name source
  | .removeTemplate name => session.changeCatalogue (·.removeTemplate name)
  | .addFilter name filter => session.changeCatalogue (·.addFilter name filter)
  | .setDirectory directory => session.changeCatalogue (·.setDirectory directory)
  | .setDepthLimit limit =>
    session.changeCatalogue fun catalogue => { catalogue with depthLimit := limit }
  | .take slot origin =>
    match session.obtain? origin with
    | .ok (handle, session) => (.handle handle, session.fill slot handle)
    | .error answer => (answer, session)
  | .unload slot =>
    match session.slots.get? slot with
    | some handle => (.done, { session with slots := session.slots.drop slot }.release handle)
    | none => (.unknown, session)
  | .inspect slot =>
    match session.slots.get? slot with
    | some handle => (.handle handle, session)
    | none => (.unknown, session)
  | .evict => session.evict
  | .isShelved name => (.truth (session.shop.catalogue.isShelved name), session)
  | .directory => (.maybeText session.shop.catalogue.directory, session)
  | .describeCatalogue => (.text session.shop.catalogue.described, session)
  | .render origin => session.render origin
  | .renderData slot data => session.renderData slot data
  | .renderToDevice slot room refusal => session.renderToDevice slot room refusal
  | .newContext => session.changeContext fun _ => .empty
  | .contextOf data =>
    match session.convert (Context.ofData data) with
    | (.ok context, session) => session.changeContext fun _ => context
    | (.error cause, session) => (.ofCause cause, session)
  | .set name value => session.changeContext (·.set name value)
  | .push => session.changeContext (·.push [])
  | .pop => session.changeContext (·.pop)
  | .get name =>
    let got := session.hosted (session.shop.context.get name)
    (.value got.1, got.2)
  | .find name => (.maybeValue (session.shop.context.find? name), session)
  | .setOutputDirectory directory =>
    session.changeContext fun context => { context with outputDirectory := some directory }
  | .outputDirectory => (.maybeText session.shop.context.outputDirectory, session)
  | .setEscapePolicy extension policy => session.changeContext (·.setEscapePolicy extension policy)
  | .selectPolicy extension =>
    (.truth (session.shop.context.hasPolicy extension),
      session.withContext (session.shop.context.select extension))
  | .setSpaceless policy => session.changeContext (·.setSpaceless policy)
  | .describeContext => (.text session.shop.context.described, session)
  | .setEntry shared name value =>
    session.changeEntries shared fun entries => (.done, entries.put name value)
  | .removeEntry shared name =>
    session.changeEntries shared fun entries =>
      (.maybeValue (entries.get? name), entries.drop name)
  | .appendItem shared value =>
    match (session.shared.get? shared).map Value.datum with
    | some (.list mark items) => (.done, session.renew mark (.list mark (items ++ [value])))
    | _ => (.unknown, session)
  | .writeFile path bytes => session.changeFiles (session.shop.host.files.create path bytes)
  | .makeFolder path =>
    let (made, files) := session.shop.host.files.makeFolders path
    session.changeFiles (made.mapError (Cause.file path), files)
  | .listFiles folder => (.files (session.shop.host.files.listing folder), session)

/-- Performs a step, with an empty journal before it, and reports. -/
def report (session : Session) (step : Step) : Report × Session :=
  let quiet := { session with
    shop := { session.shop with host := session.shop.host.withoutJournal } }
  let done := quiet.perform step
  let host := done.2.shop.host
  (⟨done.1, host.records.reverse, host.notices.reverse⟩, done.2)

/-- Performs steps one after the other, and gives the report of the first that
failed. The others are performed all the same. -/
def prepare (session : Session) (steps : List Step) : Option Report × Session :=
  match steps with
  | [] => (none, session)
  | step :: rest =>
    let done := session.report step
    let others := done.2.prepare rest
    (if done.1.answer.isFailure then some done.1 else others.1, others.2)

/-- Performs steps and a last one, and reports on the first of them that failed,
or else on the last. -/
def conclude (session : Session) (steps : List Step) (last : Step) : Report × Session :=
  let prepared := session.prepare steps
  let done := prepared.2.report last
  (prepared.1.getD done.1, done.2)

/-- A step that puts a handle into a slot does not change the handles in other
slots. -/
theorem get?_slots_fill (session : Session) (slot other : String) (handle : Handle)
    (different : other ≠ slot) :
    (session.fill slot handle).slots.get? other = session.slots.get? other := by
  unfold fill
  split <;> simp [release, withCatalogue, Named.get?_put_of_ne _ _ _ _ different]

end Session

end Stencil
