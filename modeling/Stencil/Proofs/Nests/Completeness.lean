import Stencil.Proofs.Nests.Soundness

/-!
# What nests can be placed

Pieces that nest can be placed one after the other, whatever is open before, as long as the names
of their blocks are new and no second parent is named. What they leave behind is what the nesting
grammar says: their statements in the current clause, and their named blocks.

Statements of a clause leave the stack as it was. The further clauses of an `if`, and the `empty`
clause of a loop, take the block that they belong to off the stack, together with its end tag.
-/

namespace Stencil

namespace Nesting

/-- There is room for the pieces: their blocks have names of their own, and no second parent is
named. -/
structure Admits (nesting : Nesting) (pieces : List Piece) : Prop where
  names : (nesting.blocks.map Prod.fst ++ Piece.blockNames pieces).Nodup
  parents : Piece.parents pieces + (if nesting.inherits then 1 else 0) ≤ 1

/-- The pieces name a parent. -/
def named (pieces : List Piece) : Bool := 0 < Piece.parents pieces

/-- Some of two lists of pieces name a parent. -/
@[simp] theorem named_append (first second : List Piece) :
    named (first ++ second) = (named first || named second) := by
  simp only [named, Piece.parents_append, ← Bool.decide_or]
  congr 1
  apply propext
  omega

/-- Tags that name no parent do not count. -/
theorem named_cons {piece : Piece} (other : piece.inherits = false) (rest : List Piece) :
    named (piece :: rest) = named rest := by
  simp [named, Piece.parents, other]

variable {nesting : Nesting} {pieces first second : List Piece} {statements : List Stmt}
  {blocks : Bodies} {last : Nat}

/-- What there is room for, there is room for some of. -/
theorem Admits.some {next : Nesting} {fewer : List Piece} (admits : nesting.Admits pieces)
    (among : fewer.Sublist pieces) (isBlocks : next.blocks = nesting.blocks)
    (isInherits : next.inherits = nesting.inherits) : next.Admits fewer where
  names := by
    rw [isBlocks]
    exact admits.names.sublist ((List.Sublist.refl _).append (among.filterMap _))
  parents := by
    have parents := admits.parents
    have count : Piece.parents fewer ≤ Piece.parents pieces := among.countP_le
    rw [isInherits]
    omega

/-- What there is room for, there is room for the rest of when the first were placed. -/
theorem Admits.right {next : Nesting} (admits : nesting.Admits (first ++ second))
    (perm : (blocks.map Prod.fst).Perm (Piece.blockNames first))
    (isBlocks : next.blocks = nesting.blocks ++ blocks)
    (isInherits : next.inherits = (nesting.inherits || named first)) : next.Admits second where
  names := by
    have names := admits.names
    rw [Piece.blockNames_append, ← List.append_assoc] at names
    rw [isBlocks, List.map_append]
    have same := ((perm.append_left (nesting.blocks.map Prod.fst)).append_right
      (Piece.blockNames second)).nodup_iff
    exact same.mpr names
  parents := by
    have parents := admits.parents
    rw [Piece.parents_append] at parents
    rw [isInherits]
    cases isNamed : named first with
    | false =>
      rw [Bool.or_false]
      omega
    | true =>
      have some : 0 < Piece.parents first := by simpa [named] using isNamed
      simp only [Bool.or_true, if_pos]
      omega

/-- What is gained twice is gained at once. -/
theorem gain_gain (further : Bodies) (later : Nat) (inherits more : Bool) :
    (nesting.gain blocks last inherits).gain further later more =
      nesting.gain (blocks ++ further) later (inherits || more) := by
  simp [gain, List.append_assoc, Bool.or_assoc]

/-- Without pieces nothing is gained. -/
@[simp] theorem gain_nothing (nesting : Nesting) :
    nesting.gain [] nesting.cycles (named []) = nesting := by
  simp [gain, named, Piece.parents]

/-- It does not matter whether statements are added before or after. -/
theorem gain_addAll (inherits : Bool) :
    (statements.foldl add nesting).gain blocks last inherits =
      statements.foldl add (nesting.gain blocks last inherits) := by
  rw [addAll_eq, addAll_eq]
  obtain ⟨opened, body, closed, named, cycles⟩ := nesting
  cases opened <;> rfl

/-- The innermost open block can be closed by an end tag of its kind, if its name is new. -/
theorem close_ok {inner : OpenBlock} {outer : List OpenBlock} {span : Span}
    (opened : nesting.opened = inner :: outer)
    (fresh : ∀ name, inner.gathered = .block name → name ∉ nesting.blocks.map Prod.fst) :
    nesting.close inner.gathered.kind span =
      .ok ((leave inner.gathered inner.body.reverse).foldl add
        { nesting with
          opened := outer
          blocks := nesting.blocks ++ inner.gathered.named inner.body.reverse }) := by
  unfold close
  simp only [opened, ne_eq, not_true_eq_false, if_false]
  split
  · rename_i name gathered
    have unused : (nesting.blocks.lookup name).isSome = false := by
      rw [Option.isSome_eq_false_iff, Option.isNone_iff_eq_none]
      apply List.lookup_eq_none_iff.mpr
      intro pair member
      apply bne_iff_ne.mpr
      rintro rfl
      exact fresh pair.1 gathered (List.mem_map_of_mem member)
    simp [unused, gathered, leave, Gathered.named]
  · rename_i gathered unnamed
    rw [Gathered.named_of_nameless unnamed, List.append_nil]

/-- Adding statements counts no cycle tags. -/
@[simp] theorem cycles_addAll : (statements.foldl add nesting).cycles = nesting.cycles := by
  rw [addAll_eq]
  split <;> rfl

/-- How the pieces of a phrase are placed. Statements are added; the other phrases are placed
together with the end tag of the block that they belong to, which is taken off the stack. -/
def Places : Phrase → Nat → List Piece → List Stmt → Bodies → Nat → Prop
  | .statements, first, pieces, statements, blocks, last =>
    ∀ nesting : Nesting, nesting.cycles = first → nesting.Admits pieces →
      pieces.foldlM place nesting =
        .ok (statements.foldl add (nesting.gain blocks last (named pieces)))
  | .alternatives, first, pieces, no, blocks, last =>
    ∀ (nesting : Nesting) (clauses : List (Expr × List Stmt)) (current : Expr) (span closes : Span)
      (body : List Stmt) (outer : List OpenBlock),
      nesting.opened = ⟨.condition clauses current, span, body.reverse⟩ :: outer →
      nesting.cycles = first → nesting.Admits pieces →
        (pieces ++ [Piece.tag (.close .condition) closes]).foldlM place nesting =
          .ok ((branches ((current, body) :: clauses) no).foldl add
            ({ nesting with opened := outer }.gain blocks last (named pieces)))
  | .fallback, first, pieces, empty, blocks, last =>
    ∀ (nesting : Nesting) (loop : Loop) (span closes : Span) (body : List Stmt)
      (outer : List OpenBlock),
      nesting.opened = ⟨.loop loop, span, body.reverse⟩ :: outer →
      nesting.cycles = first → nesting.Admits pieces →
        (pieces ++ [Piece.tag (.close .loop) closes]).foldlM place nesting =
          .ok ([Stmt.each loop body empty].foldl add
            ({ nesting with opened := outer }.gain blocks last (named pieces)))

section

variable {from_ middle : Nat} {inner rest : List Piece} {body others : List Stmt}
  {within further : Bodies} {gathered : Gathered} {span : Span} {outer : List OpenBlock}

/-- Statements are placed in the first clause of a block, or in a new one. -/
theorem Places.inside (places : Places .statements middle inner body within last)
    (opened : nesting.opened = ⟨gathered, span, []⟩ :: outer) (count : nesting.cycles = middle)
    (admits : nesting.Admits inner) :
    inner.foldlM place nesting =
      .ok { nesting.gain within last (named inner) with
        opened := ⟨gathered, span, body.reverse⟩ :: outer } := by
  rw [places nesting count admits, addAll_eq]
  have same : (nesting.gain within last (named inner)).opened = ⟨gathered, span, []⟩ :: outer :=
    opened
  simp only [same, List.append_nil]

/-- Statements are placed after others. -/
theorem Places.after (places : Places .statements middle rest others further last)
    (placed : pieces.foldlM place nesting =
      .ok (statements.foldl add (nesting.gain blocks middle (named pieces))))
    (perm : (blocks.map Prod.fst).Perm (Piece.blockNames pieces))
    (admits : nesting.Admits (pieces ++ rest)) :
    (pieces ++ rest).foldlM place nesting =
      .ok ((statements ++ others).foldl add
        (nesting.gain (blocks ++ further) last (named (pieces ++ rest)))) := by
  have count : (statements.foldl add (nesting.gain blocks middle (named pieces))).cycles = middle :=
    cycles_addAll
  have room : (statements.foldl add (nesting.gain blocks middle (named pieces))).Admits rest :=
    admits.right perm (by rw [blocks_addAll]; rfl) (by rw [inherits_addAll]; rfl)
  have done := places _ count room
  rw [gain_addAll, gain_gain, ← named_append, ← List.foldl_append] at done
  rw [List.foldlM_append, placed]
  exact done

/-- Closing takes the innermost block off the stack, and adds what it leaves. -/
theorem place_close (opened : nesting.opened = ⟨gathered, span, body.reverse⟩ :: outer)
    (fresh : ∀ name, gathered = .block name → name ∉ nesting.blocks.map Prod.fst) (closes : Span) :
    [Piece.tag (.close gathered.kind) closes].foldlM place nesting =
      .ok ((leave gathered body).foldl add
        { nesting with opened := outer, blocks := nesting.blocks ++ gathered.named body }) := by
  have closed : nesting.close gathered.kind closes = _ := close_ok opened fresh
  rw [List.reverse_reverse] at closed
  rw [List.foldlM_cons, place, placeTag, closed]
  rfl

/-- A block without a name that goes on with no other clause is closed. -/
theorem place_close_bare (nameless : ∀ name, gathered ≠ .block name)
    (opened : nesting.opened = ⟨gathered, span, body.reverse⟩ :: outer) (closes : Span) :
    ([] ++ [Piece.tag (.close gathered.kind) closes]).foldlM place nesting =
      .ok ((leave gathered body).foldl add
        ({ nesting with opened := outer }.gain [] nesting.cycles (named []))) := by
  have closed := place_close opened (fun name same => absurd same (nameless name)) closes
  rw [Gathered.named_of_nameless nameless, List.append_nil] at closed
  have same := gain_nothing { nesting with opened := outer }
  rw [List.nil_append, same]
  exact closed

/-- A clause is started, and statements are placed in it. -/
theorem Places.filling {piece : Piece} (places : Places .statements middle inner body within last)
    (starts : nesting.place piece = .ok { nesting with opened := ⟨gathered, span, []⟩ :: outer })
    (count : nesting.cycles = middle) (admits : nesting.Admits inner) :
    (piece :: inner).foldlM place nesting =
      .ok { nesting.gain within last (named inner) with
        opened := ⟨gathered, span, body.reverse⟩ :: outer } := by
  rw [List.foldlM_cons, starts]
  exact places.inside rfl count (admits.some (List.Sublist.refl _) rfl rfl)

/-- The last clause of a block is started, filled and closed. -/
theorem Places.closing {piece : Piece} (places : Places .statements middle inner body within last)
    (starts : nesting.place piece = .ok { nesting with opened := ⟨gathered, span, []⟩ :: outer })
    (count : nesting.cycles = middle) (admits : nesting.Admits inner)
    (fresh : ∀ name, gathered = .block name → name ∉ (nesting.blocks ++ within).map Prod.fst)
    (closes : Span) :
    (piece :: (inner ++ [Piece.tag (.close gathered.kind) closes])).foldlM place nesting =
      .ok ((leave gathered body).foldl add
        ({ nesting with opened := outer }.gain (within ++ gathered.named body) last
          (named inner))) := by
  have closed : [Piece.tag (.close gathered.kind) closes].foldlM place
      { nesting.gain within last (named inner) with
        opened := ⟨gathered, span, body.reverse⟩ :: outer } = _ := place_close rfl fresh closes
  rw [← List.cons_append, List.foldlM_append, places.filling starts count admits]
  refine closed.trans ?_
  simp only [gain, List.append_assoc]

/-- So it is with the last clause of a block without a name, whatever tag it starts with. -/
theorem Places.lastClause {tag : Tag} {opens : Span} {nesting : Nesting}
    (places : Places .statements middle inner body within last)
    (nameless : ∀ name, gathered ≠ .block name)
    (starts : nesting.place (.tag tag opens) =
      .ok { nesting with opened := ⟨gathered, span, []⟩ :: outer })
    (noParent : (Piece.tag tag opens).inherits = false)
    (count : nesting.cycles = middle) (admits : nesting.Admits (.tag tag opens :: inner))
    (closes : Span) :
    (.tag tag opens :: inner ++ [Piece.tag (.close gathered.kind) closes]).foldlM place nesting =
      .ok ((leave gathered body).foldl add
        ({ nesting with opened := outer }.gain within last (named (.tag tag opens :: inner)))) := by
  have closed := places.closing starts count (admits.some (List.sublist_cons_self _ _) rfl rfl)
    (fun name same => absurd same (nameless name)) closes
  rw [Gathered.named_of_nameless nameless, List.append_nil] at closed
  rw [named_cons noParent]
  exact closed

/-- A tag that opens a block starts its first clause. -/
theorem place_opens {tag : Tag} (opens : tag.opens? = some gathered) (span : Span) :
    nesting.place (.tag tag span) =
      .ok { nesting with opened := ⟨gathered, span, []⟩ :: nesting.opened } := by
  cases tag <;> cases opens <;> rfl

/-- A piece that stands for a statement is placed, and statements after it. -/
theorem Places.alone {piece : Piece} {statement : Stmt} {first : Nat}
    (stands : piece.alone? first = some statement)
    (restPlaces : Places .statements (first + piece.turns) rest others further last) :
    Places .statements first (piece :: rest) (statement :: others) further last := by
  intro nesting count admits
  subst count
  have names : piece.blockName? = none := by
    unfold Piece.alone? at stands
    split at stands <;> first | rfl | cases stands
  have isNamed : named [piece] = piece.inherits := by
    cases inherits : piece.inherits <;> simp [named, Piece.parents, inherits]
  rcases place_alone stands with ⟨_, placed⟩ | ⟨second, _⟩
  · have single : [piece].foldlM place nesting = .ok ([statement].foldl add
        (nesting.gain [] (nesting.cycles + piece.turns) (named [piece]))) := by
      rw [List.foldlM_cons, placed, isNamed]
      rfl
    exact restPlaces.after single (by simp [names, Piece.blockNames]) admits
  · -- There is no room for a second parent.
    obtain ⟨inherited, inherits⟩ := Bool.and_eq_true_iff.mp second
    have parents := admits.parents
    simp [Piece.parents, inherits, inherited] at parents

/-- A closed block is placed, and statements after it. -/
theorem Places.block (insidePlaces : Places .statements middle inner body within last)
    {later : Nat} (restPlaces : Places .statements last rest others further later) (tag : Tag)
    (gathered : Gathered) (opens : tag.opens? = some gathered) (span closes : Span)
    (perm : ((within ++ gathered.named body).map Prod.fst).Perm
      (Piece.blockNames (.tag tag span :: (inner ++ [.tag (.close gathered.kind) closes])))) :
    Places .statements middle
      (.tag tag span :: (inner ++ .tag (.close gathered.kind) closes :: rest))
      (leave gathered body ++ others) ((within ++ gathered.named body) ++ further) later := by
  intro nesting count admits
  have shape : .tag tag span :: (inner ++ .tag (.close gathered.kind) closes :: rest) =
      (.tag tag span :: (inner ++ [.tag (.close gathered.kind) closes])) ++ rest := by
    rw [List.cons_append, List.append_assoc, List.singleton_append]
  have among : inner.Sublist
      ((.tag tag span :: (inner ++ [.tag (.close gathered.kind) closes])) ++ rest) := by
    simp
  have named : named (.tag tag span :: (inner ++ [.tag (.close gathered.kind) closes])) =
      named inner := by
    cases tag <;> cases opens <;> simp [Piece.inherits, Nesting.named, Piece.parents]
  rw [shape] at admits ⊢
  apply restPlaces.after _ perm admits
  rw [named]
  refine insidePlaces.closing (place_opens opens span) count (admits.some among rfl rfl) ?_ closes
  rintro name rfl
  have names := admits.names
  rw [Piece.blockNames_append, ← List.append_assoc] at names
  have distinct := (perm.append_left (nesting.blocks.map Prod.fst)).nodup_iff.mpr
    (List.nodup_append.mp names).1
  rw [← List.map_append, ← List.append_assoc, List.map_append] at distinct
  intro member
  exact (List.nodup_append.mp distinct).2.2 name member name (List.mem_singleton_self name) rfl

/-- A block with clauses after its first is placed, and statements after it. What is left to show is
that those clauses are placed, with the end tag, where the first one is full. -/
theorem Places.clauses {clauses : List Piece} {statement : Stmt} {after later : Nat}
    {more : Bodies} (insidePlaces : Places .statements middle inner body within last)
    (restPlaces : Places .statements after rest others further later) (tag : Tag)
    (gathered : Gathered) (opens : tag.opens? = some gathered) (span closes : Span)
    (unnamed : (Piece.tag tag span).blockName? = none)
    (withinPerm : (within.map Prod.fst).Perm (Piece.blockNames inner))
    (morePerm : (more.map Prod.fst).Perm (Piece.blockNames clauses))
    (placed : ∀ (nesting : Nesting) (outer : List OpenBlock),
      nesting.opened = ⟨gathered, span, body.reverse⟩ :: outer → nesting.cycles = last →
      nesting.Admits clauses →
        (clauses ++ [Piece.tag (.close gathered.kind) closes]).foldlM place nesting =
          .ok ([statement].foldl add
            ({ nesting with opened := outer }.gain more after (named clauses)))) :
    Places .statements middle
      (.tag tag span :: (inner ++ (clauses ++ .tag (.close gathered.kind) closes :: rest)))
      (statement :: others) (within ++ (more ++ further)) later := by
  intro nesting count admits
  have shape : .tag tag span :: (inner ++ (clauses ++ .tag (.close gathered.kind) closes :: rest)) =
      ((.tag tag span :: inner) ++ (clauses ++ [.tag (.close gathered.kind) closes])) ++ rest := by
    simp
  have named : named ((.tag tag span :: inner) ++
      (clauses ++ [.tag (.close gathered.kind) closes])) = (named inner || named clauses) := by
    have opening : Nesting.named (.tag tag span :: inner) = Nesting.named inner := by
      cases tag <;> cases opens <;> simp [Piece.inherits, Nesting.named, Piece.parents]
    have closing : Nesting.named [.tag (.close gathered.kind) closes] = false := by
      simp [Piece.inherits, Nesting.named, Piece.parents]
    rw [named_append, named_append, opening, closing, Bool.or_false]
  have perm : ((within ++ more).map Prod.fst).Perm (Piece.blockNames
      ((.tag tag span :: inner) ++ (clauses ++ [.tag (.close gathered.kind) closes]))) := by
    have closing : Piece.blockNames [.tag (.close gathered.kind) closes] = [] := rfl
    rw [Piece.blockNames_append, Piece.blockNames_cons, unnamed, Piece.blockNames_append, closing,
      List.append_nil, List.map_append]
    exact withinPerm.append morePerm
  have roomInside : nesting.Admits (inner ++ clauses) :=
    admits.some (by simp) rfl rfl
  have filled := insidePlaces.filling (place_opens opens span) count
    (roomInside.some (List.sublist_append_left _ _) rfl rfl)
  have roomAfter : Nesting.Admits { nesting.gain within last (Nesting.named inner) with
      opened := ⟨gathered, span, body.reverse⟩ :: nesting.opened } clauses :=
    roomInside.right withinPerm rfl rfl
  have closed := placed _ nesting.opened rfl rfl roomAfter
  have front : ((Piece.tag tag span :: inner) ++
      (clauses ++ [Piece.tag (.close gathered.kind) closes])).foldlM place nesting =
        .ok ([statement].foldl add (nesting.gain (within ++ more) after (Nesting.named
          ((.tag tag span :: inner) ++ (clauses ++ [.tag (.close gathered.kind) closes]))))) := by
    rw [List.foldlM_append, filled, named, ← gain_gain]
    exact closed
  rw [shape] at admits ⊢
  rw [← List.append_assoc within]
  exact restPlaces.after front perm admits

/-- Pieces that nest can be placed. -/
theorem places_of_nests {phrase : Phrase} {first : Nat}
    (nests : Nests phrase first pieces statements blocks last) :
    Places phrase first pieces statements blocks last := by
  induction nests with
  | nothing =>
    intro nesting count _
    subst count
    rw [gain_nothing]
    rfl
  | alone stands rest restPlaces => exact .alone stands restPlaces
  | @region _ _ _ region opens closes _ _ _ _ _ _ inside rest insidePlaces restPlaces =>
    have closed : Nests _ _
        (.tag (.region region) opens :: (_ ++ [.tag (.close region.kind) closes]))
        [.within region _] (_ ++ []) _ := .region inside .nothing
    have whole := insidePlaces.block restPlaces (.region region) (.region region) rfl opens closes
      closed.blockNames_perm
    change Places _ _ _ _ ((_ ++ []) ++ _) _ at whole
    rwa [List.append_nil] at whole
  | @block _ _ _ name opens closes _ _ _ _ _ _ inside rest insidePlaces restPlaces =>
    have closed : Nests _ _ (.tag (.block name) opens :: (_ ++ [.tag (.close .block) closes]))
        [.block name] (_ ++ [(name, _)]) _ := .block inside .nothing
    have whole := insidePlaces.block restPlaces (.block name) (.block name) rfl opens closes
      closed.blockNames_perm
    change Places _ _ _ _ ((_ ++ [(name, _)]) ++ _) _ at whole
    rwa [List.append_assoc, List.singleton_append] at whole
  | @loop _ _ _ _ loop _ _ _ _ _ _ _ _ _ _ _ inside otherwise rest insidePlaces otherwisePlaces
      restPlaces =>
    refine insidePlaces.clauses restPlaces (.loop loop) (.loop loop) rfl _ _ rfl
      inside.blockNames_perm otherwise.blockNames_perm ?_
    intro nesting outer opened count admits
    exact otherwisePlaces nesting _ _ _ _ outer opened count admits
  | @condition _ _ _ _ current _ _ _ _ _ _ _ _ _ _ _ inside otherwise rest insidePlaces
      otherwisePlaces restPlaces =>
    refine insidePlaces.clauses restPlaces (.condition current) (.condition [] current) rfl _ _ rfl
      inside.blockNames_perm otherwise.blockNames_perm ?_
    intro nesting outer opened count admits
    exact otherwisePlaces nesting _ _ _ _ _ outer opened count admits
  | noFallback =>
    intro nesting loop span closes body outer opened count admits
    subst count
    exact place_close_bare (by simp) opened closes
  | @fallback _ _ opens inner _ _ inside insidePlaces =>
    intro nesting loop span closes body outer opened count admits
    have starts : nesting.place (.tag .empty opens) =
        .ok { nesting with opened := ⟨.empty loop body, span, []⟩ :: outer } := by
      simp only [place, placeTag, advance, opened, List.reverse_reverse]
    exact insidePlaces.lastClause (by simp) starts rfl count admits closes
  | noAlternative =>
    intro nesting clauses current span closes body outer opened count admits
    subst count
    exact place_close_bare (by simp) opened closes
  | @otherwise _ _ opens inner _ _ inside insidePlaces =>
    intro nesting clauses current span closes body outer opened count admits
    have starts : nesting.place (.tag .otherwise opens) = .ok { nesting with
        opened := ⟨.otherwise ((current, body) :: clauses), span, []⟩ :: outer } := by
      simp only [place, placeTag, advance, opened, List.reverse_reverse]
    exact insidePlaces.lastClause (by simp) starts rfl count admits closes
  | @otherwiseIf _ middle _ condition opens inner tail filled _ _ _ inside otherwise insidePlaces
      otherwisePlaces =>
    intro nesting clauses current span closes body outer opened count admits
    have starts : nesting.place (.tag (.otherwiseIf condition) opens) = .ok { nesting with
        opened := ⟨.condition ((current, body) :: clauses) condition, span, []⟩ :: outer } := by
      simp only [place, placeTag, advance, opened, List.reverse_reverse]
    have room : nesting.Admits (inner ++ tail) :=
      admits.some (List.sublist_cons_self _ _) rfl rfl
    have placed := insidePlaces.filling starts count
      (room.some (List.sublist_append_left _ _) rfl rfl)
    have roomAfter : Nesting.Admits { nesting.gain _ middle (named inner) with
        opened :=
          ⟨.condition ((current, body) :: clauses) condition, span, filled.reverse⟩ :: outer } tail :=
      room.right inside.blockNames_perm rfl rfl
    have closed := otherwisePlaces _ ((current, body) :: clauses) condition span closes filled outer
      rfl rfl roomAfter
    rw [named_cons rfl, named_append, ← gain_gain, ← List.cons_append, List.append_assoc,
      List.foldlM_append, placed]
    exact closed

end

/-- Pieces that nest are nested without a flaw, if the names of their blocks differ and no second
parent is named. -/
theorem ofPieces_of_nests {cycles : Nat}
    (nests : Nests .statements 0 pieces statements blocks cycles)
    (distinct : (Piece.blockNames pieces).Nodup) (parents : Piece.parents pieces ≤ 1) :
    ofPieces pieces none = .ok ⟨[], statements.reverse, blocks, named pieces, cycles⟩ := by
  have room : empty.Admits pieces := ⟨distinct, parents⟩
  have placed := places_of_nests nests empty rfl room
  rw [addAll_eq] at placed
  have outside : (empty.gain blocks cycles (named pieces)).opened = [] := rfl
  simp only [outside] at placed
  unfold ofPieces
  rw [placed]
  simp [Bind.bind, Except.bind, finish, gain, empty]

end Nesting

end Stencil
