import Mathlib
import Stencil.Proofs.Fitting.Templates
import Stencil.Proofs.Ordered
import Stencil.Proofs.Safety.Mentions

/-!
# Well-formed templates

What a rendering takes for granted of a template that was compiled: its named blocks have names of
their own, which the registry maps to their indices, and each is referred to once; its cycle tags
have numbers of their own and items to choose from; its paths begin with a name; and its places and
texts are those of spans that can be cut out of its source.
-/

namespace Stencil

/-- The raw text, or the names in a tag. -/
def Content.texts : Content → List String
  | .text content => [content]
  | .output _ => []
  | .tag said => said.names

/-- The expressions that are written out, or written in a tag. -/
def Content.written : Content → List Expr
  | .text _ => []
  | .output value => [value]
  | .tag said => said.written

/-- The name of the block that stands there. -/
def Content.blockName? : Content → Option String
  | .tag (.block name) => some name
  | _ => none

/-- What the expressions mention. -/
def Content.mentions (content : Content) : List Mention := mentionsAll content.written

namespace Template

variable (template : Template)

/-- The indices of the named blocks under their names. -/
def registry : Named Nat :=
  Named.ofPairs (template.blocks.zipIdx.map fun entry => (entry.1.1, entry.2))

/-- The blocks that are referred to, in the body and in the bodies of blocks. -/
def references : List (Option Nat) :=
  (template.parts.filterMap fun part => part.content.blockName?).map template.registry.get?

/-- The cycle tags with their numbers and items. -/
def cycles : List (Nat × List Expr) := template.parts.filterMap Stmt.cycle?

/-- The places of tags that are kept. -/
def spans : List Span := template.parts.filterMap Stmt.span?

/-- What the expressions of the template mention. -/
def mentions : List Mention := template.parts.flatMap fun part => part.content.mentions

/-- The texts that were in the source: raw texts, names, and the texts of what is mentioned. -/
def texts : List String :=
  (template.parts.flatMap fun part => part.content.texts) ++ template.mentions.flatMap Mention.texts

/-- The template is as a rendering takes it for granted to be. -/
structure WellFormed : Prop where
  /-- The names of blocks are distinct. -/
  distinct : (template.blocks.map Prod.fst).Nodup
  /-- The registry maps the name of each block to its index, and no other name. -/
  registered : ∀ name id, template.registry.get? name = some id ↔
    template.blocks[id]?.map Prod.fst = some name
  /-- Each block is referred to once. -/
  referenced : template.references.Perm ((List.range template.blocks.length).map some)
  /-- The numbers of cycle tags are distinct. -/
  numbered : (template.cycles.map Prod.fst).Nodup
  /-- Every cycle tag has an item. -/
  filled : ∀ cycle ∈ template.cycles, cycle.2 ≠ []
  /-- Every path is written with a name and the segments behind it, every filter with its name. -/
  mentioned : ∀ mention ∈ template.mentions,
    mention.WrittenWith template.source.toList (visible template.source)
  /-- Every tag that keeps its place spans from one lexeme to another. -/
  placed : ∀ span ∈ template.spans, span ∈ Lexeme.spansOf template.source
  /-- Every span from one lexeme to another can be cut out of the source. -/
  inBounds : ∀ span ∈ Lexeme.spansOf template.source,
    span.cut template.source = .ok (span.text template.source.toList)
  /-- So can every text. -/
  shown : ∀ text ∈ template.texts, Lexeme.cutOut template.source text = .ok text

end Template

section Registry

variable {template : Template}

/-- An index in the registry is that of a block of the name. -/
theorem Template.name_of_registry {name : String} {id : Nat}
    (found : template.registry.get? name = some id) :
    template.blocks[id]?.map Prod.fst = some name := by
  have member := Named.mem_of_mem_ofPairs (Named.mem_of_get? found)
  obtain ⟨⟨block, index⟩, isEntry, same⟩ := List.mem_map.mp member
  cases same
  rw [List.mem_zipIdx_iff_getElem?.mp isEntry]
  rfl

/-- Where the names are distinct, every block is found by its name. -/
theorem Template.registry_of_name (distinct : (template.blocks.map Prod.fst).Nodup)
    {name : String} {id : Nat} (named : template.blocks[id]?.map Prod.fst = some name) :
    template.registry.get? name = some id := by
  have isName : name ∈ (template.blocks.zipIdx.map fun entry => (entry.1.1, entry.2)).map
      Prod.fst := by
    obtain ⟨block, isBlock, rfl⟩ := Option.map_eq_some_iff.mp named
    simp only [List.map_map, List.mem_map]
    exact ⟨(block, id), List.mem_zipIdx_iff_getElem?.mpr isBlock, rfl⟩
  obtain ⟨other, found⟩ := Option.isSome_iff_exists.mp (Named.isSome_ofPairs isName)
  have otherNamed := name_of_registry found
  rw [← List.getElem?_map] at named otherNamed
  obtain ⟨inside, isName⟩ := List.getElem?_eq_some_iff.mp named
  obtain ⟨otherInside, isOther⟩ := List.getElem?_eq_some_iff.mp otherNamed
  have same : other = id :=
    (List.Nodup.getElem_inj_iff distinct).mp (isOther.trans isName.symm)
  rw [← same]
  exact found

end Registry

section Pieces

variable {setting : Setting} {lexemes taken : List Lexeme} {pieces : List Piece} {piece : Piece}

/-- What a piece is taken from is among the lexemes that spell the pieces. -/
theorem Piece.Spelt.exists_taken (spelt : Spelt setting lexemes pieces) (member : piece ∈ pieces) :
    ∃ taken, taken <:+: lexemes ∧ Taken setting taken (some piece) := by
  induction spelt with
  | nothing => cases member
  | next begins later inductionHypothesis =>
    obtain ⟨taken, rfl, takes⟩ := begins.taken
    rcases List.mem_append.mp member with here | after
    · rw [Option.mem_toList.mp here] at takes
      exact ⟨taken, (List.prefix_append _ _).isInfix, takes⟩
    · obtain ⟨others, among, takesOther⟩ := inductionHypothesis after
      exact ⟨others, among.trans (List.suffix_append _ _).isInfix, takesOther⟩

/-- A tag says its names and expressions, if it says anything. -/
theorem Piece.content_of_tag {tag : Tag} {span : Span} {content : Content}
    (stated : (Piece.tag tag span).content? = some content) :
    content.texts = tag.names ∧ content.written = tag.written := by
  cases tag <;> cases stated <;> exact ⟨rfl, rfl⟩

/-- The texts of what a piece says are those of lexemes it is taken from, and its expressions are
written with them. -/
theorem Piece.Taken.content (takes : Taken setting taken (some piece)) {content : Content}
    (stated : piece.content? = some content) :
    (∀ text ∈ content.texts, ∃ lexeme ∈ taken, lexeme.text = text) ∧
      ∀ mention ∈ content.mentions, mention.WrittenWith setting.source taken := by
  have mentioned {names : List String} {expressions : List Expr} {inside around : List Lexeme}
      (drawn : Drawn setting inside names expressions) (within : inside <:+: around) :
      ∀ mention ∈ mentionsAll expressions, mention.WrittenWith setting.source around := by
    intro mention member
    obtain ⟨expression, isWritten, isMention⟩ := mem_mentionsAll.mp member
    obtain ⟨part, among, spelled⟩ := drawn.expressions expression isWritten
    exact (spelled.mentions mention isMention).mono (among.trans within)
  have enclosed (opening closing : Lexeme) (inside : List Lexeme) :
      inside <:+: opening :: (inside ++ [closing]) := ⟨[opening], [closing], rfl⟩
  cases takes with
  | @text found isText =>
    cases stated
    exact ⟨by simp [Content.texts], by simp [Content.mentions, Content.written, mentionsAll]⟩
  | @output opening closing inside value _ _ drawn =>
    cases stated
    exact ⟨by simp [Content.texts], mentioned drawn (enclosed opening closing inside)⟩
  | @tag opening closing inside tag _ _ drawn =>
    obtain ⟨texts, written⟩ := content_of_tag stated
    rw [texts, Content.mentions, written]
    refine ⟨?_, mentioned drawn (enclosed opening closing inside)⟩
    intro name member
    obtain ⟨lexeme, among, _, same⟩ := drawn.names name member
    exact ⟨lexeme, (enclosed opening closing inside).subset among, same⟩

/-- The place that is kept of a piece is that of a tag. -/
theorem Piece.Taken.spans (takes : Taken setting taken (some piece)) {span : Span}
    (kept : piece.span? = some span) :
    ∃ first ∈ taken, ∃ last ∈ taken, span = first.span.cover last.span := by
  cases takes with
  | text | output => cases kept
  | @tag opening closing inside tag =>
    refine ⟨opening, by simp, closing, by simp, ?_⟩
    cases tag <;> cases kept <;> rfl

/-- What is said of a block that stands there is what the piece says that opens it. -/
theorem Piece.blockName_said (piece : Piece) :
    (piece.said?.bind fun said => said.1.blockName?) = piece.blockName? := by
  cases piece with
  | tag tag span => cases tag <;> rfl
  | _ => rfl

variable {phrase : Phrase} {first last : Nat} {statements : List Stmt} {blocks : Bodies}

/-- A part says what one of the pieces says. -/
theorem Nests.exists_said (nests : Nests phrase first pieces statements blocks last)
    {part : Stmt} (member : part ∈ Bodies.parts statements blocks) :
    ∃ piece ∈ pieces, piece.said? = some part.said :=
  List.mem_filterMap.mp (nests.said_perm.subset (List.mem_map_of_mem member))

/-- Each block stands at one place, in the body or in the body of a block. -/
theorem Nests.references_perm (nests : Nests phrase first pieces statements blocks last) :
    ((Bodies.parts statements blocks).filterMap fun part => part.content.blockName?).Perm
      (blocks.map Prod.fst) := by
  have told := nests.said_perm.filterMap fun said => said.1.blockName?
  rw [List.filterMap_map, List.filterMap_filterMap] at told
  simp only [Piece.blockName_said] at told
  exact told.trans nests.blockNames_perm.symm

end Pieces

namespace Template

variable {arity? : String → Option Arity} {name : Option String} {template : Template}
  {pieces : List Piece} {flaw : Option Flaw} {cycles : Nat}

/-- What the template mentions is written with lexemes of its source. -/
theorem mentioned_of_spelt (nests : Nests .statements 0 pieces template.body template.blocks cycles)
    (spelt : Piece.Spelt (setting arity? template.source flaw) (visible template.source) pieces) :
    ∀ mention ∈ template.mentions,
      mention.WrittenWith template.source.toList (visible template.source) := by
  intro mention member
  obtain ⟨part, isPart, mentions⟩ := List.mem_flatMap.mp member
  obtain ⟨piece, isPiece, said⟩ := nests.exists_said isPart
  obtain ⟨taken, among, takes⟩ := spelt.exists_taken isPiece
  obtain ⟨content, isContent, same⟩ := Option.map_eq_some_iff.mp said
  rw [← (Prod.mk.inj same).1] at mentions
  exact ((takes.content isContent).2 mention mentions).mono among

/-- Its raw texts and its names are those of lexemes. -/
theorem shows_of_spelt (nests : Nests .statements 0 pieces template.body template.blocks cycles)
    (spelt : Piece.Spelt (setting arity? template.source flaw) (visible template.source) pieces) :
    ∀ text ∈ template.texts, Lexeme.Shows template.source text := by
  intro text member
  rcases List.mem_append.mp member with named | mentioned
  · obtain ⟨part, isPart, isText⟩ := List.mem_flatMap.mp named
    obtain ⟨piece, isPiece, said⟩ := nests.exists_said isPart
    obtain ⟨taken, among, takes⟩ := spelt.exists_taken isPiece
    obtain ⟨content, isContent, same⟩ := Option.map_eq_some_iff.mp said
    rw [← (Prod.mk.inj same).1] at isText
    obtain ⟨lexeme, isTaken, rfl⟩ := (takes.content isContent).1 text isText
    exact Lexeme.shows_text (among.subset isTaken)
  · obtain ⟨mention, isMention, isText⟩ := List.mem_flatMap.mp mentioned
    exact (mentioned_of_spelt nests spelt mention isMention).shows text isText

/-- The places of its tags span from one lexeme to another. -/
theorem placed_of_spelt (nests : Nests .statements 0 pieces template.body template.blocks cycles)
    (spelt : Piece.Spelt (setting arity? template.source flaw) (visible template.source) pieces) :
    ∀ span ∈ template.spans, span ∈ Lexeme.spansOf template.source := by
  intro span member
  obtain ⟨part, isPart, keeps⟩ := List.mem_filterMap.mp member
  obtain ⟨piece, isPiece, said⟩ := nests.exists_said isPart
  obtain ⟨taken, among, takes⟩ := spelt.exists_taken isPiece
  obtain ⟨content, _, same⟩ := Option.map_eq_some_iff.mp said
  obtain ⟨first, isFirst, last, isLast, rfl⟩ :=
    takes.spans ((Prod.mk.inj same).2.trans keeps)
  exact List.mem_flatMap.mpr
    ⟨first, among.subset isFirst, List.mem_map_of_mem (among.subset isLast)⟩

/-- Each of its blocks is referred to once. -/
theorem referenced_of_nests
    (nests : Nests .statements 0 pieces template.body template.blocks cycles)
    (distinct : (template.blocks.map Prod.fst).Nodup) :
    template.references.Perm ((List.range template.blocks.length).map some) := by
  refine (nests.references_perm.map template.registry.get?).trans ?_
  have same : (template.blocks.map Prod.fst).map template.registry.get? =
      (List.range template.blocks.length).map some := by
    apply List.ext_getElem
    · simp
    · intro id inside _
      simp only [List.getElem_map, List.getElem_range]
      apply registry_of_name distinct
      have below : id < template.blocks.length := by simpa using inside
      rw [List.getElem?_eq_getElem below]
      rfl
  rw [same]

/-- Its cycle tags have numbers of their own. -/
theorem numbered_of_nests
    (nests : Nests .statements 0 pieces template.body template.blocks cycles) :
    (template.cycles.map Prod.fst).Nodup := by
  have numbers := nests.cycleNumbers_perm.nodup_iff.mpr List.nodup_range'
  have same : template.cycles.map Prod.fst = template.parts.filterMap Stmt.cycleNumber? :=
    List.map_filterMap
  rw [same]
  exact numbers

/-- Every template that was compiled is well formed. -/
theorem wellFormed_of_compile {source : String}
    (compiled : compile arity? name source = .ok template) : template.WellFormed := by
  obtain ⟨pieces, nesting, read, _, made⟩ := nested_of_compile compiled
  obtain ⟨⟨⟨cycles, nests⟩, distinctNames, _⟩, _⟩ := wellNested_of_compile read compiled
  obtain rfl : template.source = source := by rw [made]
  have distinct : (template.blocks.map Prod.fst).Nodup :=
    nests.blockNames_perm.nodup_iff.mpr distinctNames
  have spelt : Piece.Spelt (setting arity? template.source _) (visible template.source) pieces :=
    (Piece.parseAll_eq_iff.mp read).2
  constructor
  case distinct => exact distinct
  case registered => exact fun name id => ⟨name_of_registry, registry_of_name distinct⟩
  case referenced => exact referenced_of_nests nests distinct
  case numbered => exact numbered_of_nests nests
  case filled =>
    intro cycle member
    obtain ⟨part, _, isCycle⟩ := List.mem_filterMap.mp member
    cases part <;> cases isCycle
    exact List.cons_ne_nil _ _
  case mentioned => exact mentioned_of_spelt nests spelt
  case placed => exact placed_of_spelt nests spelt
  case inBounds => exact fun span member => (Lexeme.inBounds_of_mem_spansOf member).cut_eq
  case shown => exact fun text member => Lexeme.cutOut_eq (shows_of_spelt nests spelt text member)

end Template

end Stencil
