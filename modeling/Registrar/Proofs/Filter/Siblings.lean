import Registrar.Proofs.Filter.Reading
import Registrar.Proofs.Filter.Sealing
import Registrar.Proofs.Sql.Alternatives

/-!
# Fragments among their siblings

The items of a list of lists are joined as they are, without parentheses around them.  What a
comparison or a group says cannot be torn apart so, but a ready-made fragment may have an `OR` of its
own, which binds less strongly than an `AND` beside it.  `fragments_keep_meaning_iff` says what such a
list means in every case: each item by itself offers alternatives, an `OR` between items gathers the
alternatives of both, and an `AND` splices the last alternative of the one with the first of the
other.
-/

namespace Registrar

open Registrar.Sql Registrar.Sql.Token

namespace Clause

/-- The expression that a clause is by itself, if it is one. -/
def expression? (clause : Clause) : Option Expr :=
  match readWhole (Token.numbered clause.text) with
  | .ok (e, []) => some e
  | _ => none

/-- The truth of a clause by itself in a row, its parameters bound. -/
def truth? (names : Names) (env : Env) (clause : Clause) : Option (Option Bool) :=
  match clause.expression?, bindCells clause.parameters with
  | some e, .ok cells => e.truth? names { env with parameters := cells }
  | _, _ => none

/-- A clause by itself is read as alternatives with `OR` between them, which have some truths in a
row. -/
def Offers (names : Names) (env : Env) (clause : Clause) (truths : List (Option Bool)) : Prop :=
  ∃ cells es, bindCells clause.parameters = .ok cells ∧
    ReadsAlternatives (Token.numbered clause.text) es ∧
    TruthsOf names { env with parameters := cells } es truths

/-- A clause is true by itself in a row. -/
def Holds (names : Names) (env : Env) (clause : Clause) : Prop :=
  clause.truth? names env = some (some true)

/-- The clauses that say something. -/
def spoken (clauses : List Clause) : List Clause :=
  clauses.filter fun clause => !clause.isEmpty

/-- The tokens of a clause are alternatives of some truths wherever it stands, with whatever numbers
its parameters have there. -/
structure StandsFor (names : Names) (env : Env) (clause : Clause) (truths : List (Option Bool)) :
    Prop where
  fits : Sealed clause.parameters.length clause.text.toList
  stored : bindCells clause.parameters = .ok (clause.parameters.map Value.stored)
  stands : ∀ k ts cells, ts.map lexeme = lexemes clause.text.toList → Numbered k ts → InRange ts →
    Env.Binds { env with parameters := cells } k (clause.parameters.map Value.stored) →
    ∃ es, Alternates ts es ∧ TruthsOf names { env with parameters := cells } es truths

end Clause

/-- The truths of the alternatives of two clauses that a conjunction joins. -/
def Conjunction.pair : Conjunction → List (Option Bool) → List (Option Bool) → List (Option Bool)
  | .and => splice
  | .or => fun truths others => truths ++ others

/-- The truths of the alternatives of some clauses that a conjunction joins. -/
def Conjunction.weave (conjunction : Conjunction) (offered : List (List (Option Bool))) :
    List (Option Bool) :=
  offered.foldr conjunction.pair []

/-- What can be bound behind each other can be bound. -/
theorem bindCells_append {values others : List Value} {cells more : List Cell}
    (first : bindCells values = .ok cells) (second : bindCells others = .ok more) :
    bindCells (values ++ others) = .ok (cells ++ more) := by
  induction values generalizing cells with
  | nil =>
    obtain rfl := Except.ok.inj first
    exact second
  | cons value values ih =>
    rw [bindCells] at first
    rw [List.cons_append, bindCells]
    cases stored : value.cell? with
    | none =>
      rw [stored] at first
      cases first
    | some cell =>
      rw [stored] at first
      obtain ⟨rest, bound, same⟩ := bind_eq_ok first
      obtain rfl := Except.ok.inj same
      simp only [ih bound]
      rfl

/-- The tokens of a sealed clause are numbered from the first mark on. -/
theorem numbered_of_sealed {n : Nat} {sql : String} (fits : Sealed n sql.toList) :
    (Token.numbered sql).map lexeme = lexemes sql.toList ∧ Numbered 0 (Token.numbered sql) ∧
      (n ≤ 32766 → InRange (Token.numbered sql)) := by
  have written : (Token.numbered sql).map lexeme = lexemes sql.toList := by
    rw [Token.numbered, map_lexeme_numberSlots]
    rfl
  have unnamed : Unnamed ((scan sql).map lexeme) := fits.unnamed
  have numbered : Numbered (Slots.mk 0 []).most (Token.numbered sql) :=
    numbered_numberSlots unnamed
  refine ⟨written, numbered, inRange_of_numbered numbered ?_⟩
  rw [written]
  exact fits.count

namespace Clause

variable {names : Names} {env : Env} {clause rest : Clause} {truths others : List (Option Bool)}

/-- A clause that has a truth by itself is read as alternatives of which the disjunction has that
truth. -/
theorem offers_of_truth? {truth : Option Bool} (told : clause.truth? names env = some truth) :
    ∃ truths, clause.Offers names env truths ∧ anyOf truths = truth := by
  unfold truth? at told
  split at told
  · next e cells known bound =>
    unfold expression? at known
    split at known
    · next e' read =>
      obtain rfl := Option.some.inj known
      obtain ⟨es, reads, tells⟩ := alternatives_of_readExpr read
      obtain ⟨truths, offered, rfl⟩ := tells _ _ _ told
      exact ⟨truths, ⟨cells, es, bound, reads, offered⟩, rfl⟩
    · cases known
  · cases told

/-- The alternatives of a clause stay what they are wherever it stands. -/
theorem Offers.standsFor (steady : names.IsSteady)
    (fits : Sealed clause.parameters.length clause.text.toList)
    (offers : clause.Offers names env truths) : clause.StandsFor names env truths := by
  obtain ⟨cells, es, bound, reads, tells⟩ := offers
  obtain rfl := bindCells_eq bound
  refine ⟨fits, bound, ?_⟩
  intro k ts others written numbered range binds
  obtain ⟨own, fromFirst, -⟩ := numbered_of_sealed fits
  let P : Renumbering := fun i j =>
    ∃ n < clause.parameters.length, i = 0 + n + 1 ∧ j = k + n + 1
  have matching : List.Forall₂ (Matches P) (Token.numbered clause.text) ts := by
    refine matches_of_numbered (written.trans own.symm) fromFirst numbered range ?_
    intro n less
    rw [own, fits.count] at less
    exact ⟨n, less, rfl, rfl⟩
  obtain ⟨fs, mirrors, alternates⟩ := reads.carries matching
  refine ⟨fs, alternates, ?_⟩
  have renumbered : Env.Renumbered P
      { env with parameters := clause.parameters.map Value.stored }
      { env with parameters := others } := by
    refine ⟨rfl, rfl, rfl, rfl, ?_⟩
    rintro _ _ ⟨n, less, rfl, rfl⟩
    obtain ⟨cell, inside⟩ : ∃ cell, (clause.parameters.map Value.stored)[n]? = some cell :=
      ⟨_, List.getElem?_eq_getElem (by simpa using less)⟩
    have at' := binds n _ inside
    simp only [Nat.zero_add, Nat.add_sub_cancel, inside, at']
  clear matching alternates reads
  induction mirrors generalizing truths with
  | nil =>
    cases tells
    exact .nil
  | cons mirror _ ih =>
    cases tells with
    | cons head tail => exact .cons ((mirror.truth? steady renumbered).trans head) (ih tail)

/-- Two clauses with the word of a conjunction between them stand for the paired alternatives. -/
theorem StandsFor.append (conjunction : Conjunction) (first : clause.StandsFor names env truths)
    (second : rest.StandsFor names env others) :
    (Clause.append conjunction.word clause rest).StandsFor names env
      (conjunction.pair truths others) := by
  have silent : Silent conjunction.word := by cases conjunction <;> decide
  have word : lexemes conjunction.word.toList = [(.word, conjunction.word.toList)] := by
    cases conjunction <;> decide
  have joined := first.fits.spacedText silent.isSealed
  have parts : lexemes (Clause.append conjunction.word clause rest).text.toList =
      lexemes clause.text.toList ++
        (.word, conjunction.word.toList) :: lexemes rest.text.toList := by
    have text : (Clause.append conjunction.word clause rest).text.toList =
        (clause.text.toList ++ ' ' :: conjunction.word.toList) ++ ' ' :: rest.text.toList := by
      simp [Clause.append]
    have before := first.fits.cuts.spaced silent.isSealed.cuts
    rw [text, before.lexemes_spaced second.fits.cuts,
      first.fits.cuts.lexemes_spaced silent.isSealed.cuts, word, List.append_assoc,
      List.singleton_append]
  refine ⟨?_, ?_, ?_⟩
  · rw [Clause.append, List.length_append]
    exact joined.spacedText second.fits
  · rw [Clause.append, List.map_append]
    exact bindCells_append first.stored second.stored
  · intro k ts cells written numbered range binds
    rw [parts] at written
    obtain ⟨ts, behind, rfl, writtenFirst, written⟩ := List.map_eq_append_iff.1 written
    obtain ⟨w, us, rfl, isWord, writtenSecond⟩ := List.map_eq_cons_iff.1 written
    have kind : w.kind = .word := congrArg Prod.fst isWord
    have isConjunction := isWord_of_lexeme isWord conjunction.upperAscii_word
    obtain ⟨numberedFirst, numbered⟩ := numbered_append.1 numbered
    have numberedSecond : Numbered (k + clause.parameters.length) us := by
      rw [writtenFirst, first.fits.count] at numbered
      simpa [Numbered, kind] using numbered
    obtain ⟨rangeFirst, range⟩ := inRange_append.1 range
    rw [Clause.append, List.map_append] at binds
    obtain ⟨bindsFirst, bindsSecond⟩ := binds.append
    rw [List.length_map] at bindsSecond
    obtain ⟨as, alternates, tells⟩ :=
      first.stands k ts cells writtenFirst numberedFirst rangeFirst bindsFirst
    obtain ⟨bs, alternates', tells'⟩ :=
      second.stands _ us cells writtenSecond numberedSecond (inRange_cons.1 range).2 bindsSecond
    cases conjunction with
    | and =>
      obtain ⟨cs, whole, spliced⟩ := alternates.splice isConjunction alternates'
      exact ⟨cs, whole, spliced names _ truths others tells tells'⟩
    | or => exact ⟨as ++ bs, alternates.append isConjunction alternates', List.rel_append tells tells'⟩

/-- Joined clauses stand for the woven alternatives. -/
theorem standsFor_joinAll (conjunction : Conjunction) {clauses : List Clause}
    {offered : List (List (Option Bool))} (present : clauses ≠ [])
    (stand : List.Forall₂ (fun clause truths => clause.StandsFor names env truths) clauses offered) :
    (joinAll conjunction clauses).StandsFor names env (conjunction.weave offered) := by
  induction stand with
  | nil => exact absurd rfl present
  | @cons clause truths clauses offered first others ih =>
    cases others with
    | nil =>
      have alone : conjunction.weave [truths] = truths := by
        cases conjunction with
        | and => exact splice_nil truths
        | or => exact List.append_nil truths
      rw [alone]
      exact first
    | cons second others => exact first.append conjunction (ih (List.cons_ne_nil _ _))

/-- A clause that stands for alternatives is true if one of them is. -/
theorem StandsFor.truth? (stands : clause.StandsFor names env truths)
    (few : clause.parameters.length ≤ 32766) :
    clause.truth? names env = some (anyOf truths) := by
  obtain ⟨own, numbered, inRange⟩ := numbered_of_sealed stands.fits
  have binds : Env.Binds { env with parameters := clause.parameters.map Value.stored } 0
      (clause.parameters.map Value.stored) := by
    intro i cell at'
    rw [Nat.zero_add]
    exact at'
  obtain ⟨es, alternates, tells⟩ := stands.stands 0 _ _ own numbered (inRange few) binds
  obtain ⟨e, standsAs, truth⟩ := alternates.standsAs
  have read : clause.expression? = some e := by
    have nothing : Ends [] ∧ Stops Level.disjunction.ceiling [] := ⟨trivial, trivial⟩
    obtain ⟨left, enough, read⟩ := standsAs (Nat.zero_le _) nothing.1 nothing.2
      (show 4 * (Token.numbered clause.text).length + 4 ≤
        exprFuel (Token.numbered clause.text) by rw [exprFuel]; omega)
    rw [List.append_nil, exprFuel] at read
    rw [exprFuel] at enough
    have whole : readWhole (Token.numbered clause.text) = .ok (e, []) :=
      read.trans (readFollows_of_stops (by omega) trivial)
    rw [expression?, whole]
  rw [Clause.truth?, read, stands.stored]
  exact truth names _ truths tells

/-- Clauses that have truths by themselves are alternatives of these truths wherever they stand. -/
theorem offers_of_told (steady : names.IsSteady) {clauses : List Clause}
    (fits : ∀ clause ∈ clauses, Sealed clause.parameters.length clause.text.toList)
    (told : ∀ clause ∈ clauses, (clause.truth? names env).isSome = true) :
    ∃ offered, List.Forall₂ (fun clause truths => Clause.Offers names env clause truths ∧
        clause.truth? names env = some (anyOf truths)) clauses offered ∧
      List.Forall₂ (fun clause truths => clause.StandsFor names env truths) clauses offered := by
  induction clauses with
  | nil => exact ⟨[], .nil, .nil⟩
  | cons clause clauses ih =>
    obtain ⟨offered, offer, stand⟩ := ih (fun c mem => fits c (List.mem_cons_of_mem _ mem))
      fun c mem => told c (List.mem_cons_of_mem _ mem)
    obtain ⟨truth, has⟩ := Option.isSome_iff_exists.1 (told clause List.mem_cons_self)
    obtain ⟨truths, offers, rfl⟩ := offers_of_truth? has
    exact ⟨truths :: offered, .cons ⟨offers, has⟩ offer,
      .cons (offers.standsFor steady (fits clause List.mem_cons_self)) stand⟩

end Clause

open Condition

/-- The clauses of items that say something are sealed if the texts of the items are. -/
theorem sealed_of_compileItems {table : String} (plainTable : isIdentifier table = true)
    {items : List Condition} {parts : List Clause} (compiled : compileItems table items = .ok parts)
    (owned : AllSealed ((itemTerms items).flatMap Term.owned)) :
    ∀ part ∈ Clause.spoken parts, Sealed part.parameters.length part.text.toList := by
  induction items generalizing parts with
  | nil =>
    obtain rfl := Except.ok.inj compiled
    exact nofun
  | cons item items ih =>
    rw [compileItems] at compiled
    obtain ⟨clause, accepted, compiled⟩ := bind_eq_ok compiled
    obtain ⟨clauses, rest, same⟩ := bind_eq_ok compiled
    obtain rfl := Except.ok.inj same
    rw [itemTerms, List.flatMap_append] at owned
    intro part mem
    obtain ⟨mem, speaks⟩ := List.mem_filter.1 mem
    rcases List.mem_cons.1 mem with rfl | mem
    · refine sealed_of_compile plainTable accepted ?_ (by simpa using speaks)
      exact fun text mem => owned text (List.mem_append_left _ mem)
    · refine ih rest (fun text mem => owned text (List.mem_append_right _ mem)) part ?_
      exact List.mem_filter.2 ⟨mem, speaks⟩

/-- Where conditions are all true, so is one of their woven alternatives. -/
theorem mem_weave {offered : List (List (Option Bool))} (present : offered ≠ [])
    (all : ∀ truths ∈ offered, some true ∈ truths) :
    some true ∈ Conjunction.and.weave offered := by
  induction offered with
  | nil => exact absurd rfl present
  | cons truths offered ih =>
    have first := all truths List.mem_cons_self
    change some true ∈ splice truths (Conjunction.and.weave offered)
    cases offered with
    | nil =>
      rw [Conjunction.weave, List.foldr_nil, splice_nil]
      exact first
    | cons others offered =>
      exact mem_splice first
        (ih (List.cons_ne_nil _ _) fun truths mem => all truths (List.mem_cons_of_mem _ mem))

/-- Conditions of one alternative each are woven into one, which is true only where all of them
are. -/
theorem weave_single {offered : List (List (Option Bool))} (present : offered ≠ [])
    (single : ∀ truths ∈ offered, truths.length = 1) :
    ∃ truth, Conjunction.and.weave offered = [truth] ∧
      (truth = some true → ∀ truths ∈ offered, some true ∈ truths) := by
  induction offered with
  | nil => exact absurd rfl present
  | cons truths offered ih =>
    obtain ⟨first, rfl⟩ := List.length_eq_one_iff.1 (single truths List.mem_cons_self)
    change ∃ truth, splice [first] (Conjunction.and.weave offered) = [truth] ∧ _
    cases offered with
    | nil =>
      refine ⟨first, rfl, ?_⟩
      rintro rfl truths mem
      rw [List.mem_singleton.1 mem]
      exact List.mem_cons_self
    | cons others offered =>
      obtain ⟨rest, woven, all⟩ := ih (List.cons_ne_nil _ _) fun truths mem =>
        single truths (List.mem_cons_of_mem _ mem)
      refine ⟨Cell.and first rest, by rw [woven, splice], ?_⟩
      intro both
      obtain ⟨rfl, rfl⟩ : first = some true ∧ rest = some true := by
        rcases first with _ | _ | _ <;> rcases rest with _ | _ | _ <;> simp_all [Cell.and]
      exact List.forall_mem_cons.2 ⟨List.mem_cons_self, all rfl⟩

/-- Alternatives are woven by `OR` into all of them. -/
theorem mem_weave_or {truth : Option Bool} {offered : List (List (Option Bool))} :
    truth ∈ Conjunction.or.weave offered ↔ ∃ truths ∈ offered, truth ∈ truths := by
  induction offered with
  | nil => simp [Conjunction.weave]
  | cons truths offered ih =>
    change truth ∈ truths ++ Conjunction.or.weave offered ↔ _
    rw [List.mem_append, ih, List.exists_mem_cons_iff]

/-- A list of lists is its items that say something, joined. -/
theorem compile_lists {table : String} {conjunction : Conjunction} {items : List Condition}
    {clause : Clause} {parts : List Clause} (lists : items.any isList = true)
    (compiled : compileItems table items = .ok parts)
    (accepted : (Condition.list items).compile table conjunction = .ok clause) :
    clause = Clause.joinAll conjunction (Clause.spoken parts) := by
  unfold compile at accepted
  rw [if_pos lists, compiled] at accepted
  exact (Except.ok.inj accepted).symm

/-- Of two lists of which the members say the same in turn, all members say it together. -/
theorem forall_mem_congr {α β : Type} {p : α → Prop} {q : β → Prop} {as : List α} {bs : List β}
    (each : List.Forall₂ (fun a b => p a ↔ q b) as bs) : (∀ a ∈ as, p a) ↔ ∀ b ∈ bs, q b := by
  induction each with
  | nil => simp
  | cons first _ ih => rw [List.forall_mem_cons, List.forall_mem_cons, first, ih]

/-- Of two lists of which the members say the same in turn, some members say it together. -/
theorem exists_mem_congr {α β : Type} {p : α → Prop} {q : β → Prop} {as : List α} {bs : List β}
    (each : List.Forall₂ (fun a b => p a ↔ q b) as bs) : (∃ a ∈ as, p a) ↔ ∃ b ∈ bs, q b := by
  induction each with
  | nil => simp
  | cons first _ ih => rw [List.exists_mem_cons_iff, List.exists_mem_cons_iff, first, ih]

/-- A list of lists keeps what its items say by themselves, ready-made fragments among them, as far as
the alternatives of the items allow.  Joined by `OR` it holds where one of its items does.  Joined by
`AND` it is the disjunction of the spliced alternatives: it holds wherever all items do, and nowhere
else exactly if none of the spliced alternatives is true without them; so it is if no item has an `OR`
outside parentheses. -/
theorem fragments_keep_meaning_iff {table : String} {conjunction : Conjunction}
    {items : List Condition} {clause : Clause} {parts : List Clause}
    (plainTable : isIdentifier table = true) (lists : items.any isList = true)
    (compiled : compileItems table items = .ok parts)
    (accepted : (Condition.list items).compile table conjunction = .ok clause)
    (owned : AllSealed (Condition.list items).owned) (few : clause.parameters.length ≤ 32766)
    (present : Clause.spoken parts ≠ []) {names : Names} (steady : names.IsSteady) {env : Env}
    (told : ∀ part ∈ Clause.spoken parts, (part.truth? names env).isSome = true) :
    ∃ offered, List.Forall₂ (fun part truths => Clause.Offers names env part truths ∧
        part.truth? names env = some (anyOf truths)) (Clause.spoken parts) offered ∧
      clause.truth? names env = some (anyOf (conjunction.weave offered)) ∧
      match conjunction with
      | .or => clause.Holds names env ↔ ∃ part ∈ Clause.spoken parts, part.Holds names env
      | .and =>
        ((∀ part ∈ Clause.spoken parts, part.Holds names env) → clause.Holds names env) ∧
        ((clause.Holds names env ↔ ∀ part ∈ Clause.spoken parts, part.Holds names env) ↔
          (some true ∈ conjunction.weave offered →
            ∀ part ∈ Clause.spoken parts, part.Holds names env)) ∧
        ((∀ truths ∈ offered, truths.length = 1) →
          (clause.Holds names env ↔ ∀ part ∈ Clause.spoken parts, part.Holds names env)) := by
  have fits := sealed_of_compileItems plainTable compiled (terms_lists lists ▸ owned)
  obtain rfl := compile_lists lists compiled accepted
  generalize Clause.spoken parts = clauses at *
  obtain ⟨offered, offer, stand⟩ := Clause.offers_of_told steady fits told
  have present' : offered ≠ [] := by
    rintro rfl
    cases offer
    exact present rfl
  have truth := (Clause.standsFor_joinAll conjunction present stand).truth? few
  have holds : (Clause.joinAll conjunction clauses).Holds names env ↔
      some true ∈ conjunction.weave offered := by
    rw [Clause.Holds, truth, Option.some_inj, anyOf_eq_true]
  have each : List.Forall₂ (fun part truths => Clause.Holds names env part ↔ some true ∈ truths)
      clauses offered := by
    refine offer.imp fun part truths given => ?_
    rw [Clause.Holds, given.2, Option.some_inj, anyOf_eq_true]
  refine ⟨offered, offer, truth, ?_⟩
  cases conjunction with
  | or =>
    rw [holds, mem_weave_or]
    exact (exists_mem_congr each).symm
  | and =>
    rw [holds, forall_mem_congr each]
    refine ⟨mem_weave present', ⟨fun same => same.1, fun only => ⟨only, mem_weave present'⟩⟩, ?_⟩
    intro single
    obtain ⟨truth, woven, only⟩ := weave_single present' single
    refine ⟨?_, mem_weave present'⟩
    rw [woven, List.mem_singleton]
    exact fun same => only same.symm

/-- A ready-made fragment with an `OR` beside a comparison. -/
def smallOrReliant : List Condition :=
  [.scalar (.text "crew = 8 OR crew = 9"), .list [.scalar (.text "ships_val"), .scalar (.text "Reliant")]]

/-- The names of a table of ships. -/
def shipNames : Names :=
  ⟨[⟨"ships", [⟨"ships_val", .text, .binary, some "TEXT", false⟩,
    ⟨"crew", .integer, .binary, some "INTEGER", false⟩], 0, none⟩], [], false, true⟩

/-- Beside a fragment with an `OR`, a comparison that is joined by `AND` counts for one of the
alternatives only: the condition is true of another ship with a crew of eight. -/
theorem fragments_keep_meaning_iff_crew :
    let fragment : Clause := ⟨"crew = 8 OR crew = 9", []⟩
    let named : Clause := ⟨"ships_val = ?", [.text "Reliant"]⟩
    let joined : Clause := ⟨"crew = 8 OR crew = 9 AND ships_val = ?", [.text "Reliant"]⟩
    let defiant : Env := ⟨[.text "Defiant", .integer 8], [], [], 0, 0⟩
    (Condition.list smallOrReliant).compile "ships" .and = .ok joined ∧
      (∃ offered, List.Forall₂ (fun part truths => Clause.Offers shipNames defiant part truths ∧
          part.truth? shipNames defiant = some (anyOf truths)) [fragment, named] offered ∧
        joined.truth? shipNames defiant = some (anyOf (Conjunction.and.weave offered))) ∧
      joined.Holds shipNames defiant ∧ ¬ named.Holds shipNames defiant := by
  intro fragment named joined defiant
  have plainTable : isIdentifier "ships" = true := by decide
  have lists : smallOrReliant.any Condition.isList = true := rfl
  have compiled : compileItems "ships" smallOrReliant = .ok [fragment, named] := rfl
  have accepted : (Condition.list smallOrReliant).compile "ships" .and = .ok joined := rfl
  have owned : AllSealed (Condition.list smallOrReliant).owned := by decide
  have few : joined.parameters.length ≤ 32766 := by decide
  have steady : shipNames.IsSteady := nofun
  have speak : Clause.spoken [fragment, named] = [fragment, named] :=
    List.filter_eq_self.2 (by decide)
  have told : ∀ part ∈ [fragment, named], (part.truth? shipNames defiant).isSome = true :=
    by decide +kernel
  have weaves := fragments_keep_meaning_iff plainTable lists compiled accepted owned few
    (by rw [speak]; exact List.cons_ne_nil _ _) steady (by rw [speak]; exact told)
  rw [speak] at weaves
  obtain ⟨offered, offer, truth, -⟩ := weaves
  have other : named.truth? shipNames defiant = some (some false) := by decide +kernel
  refine ⟨accepted, ⟨offered, offer, truth⟩, (by decide +kernel : joined.truth? _ _ = _), ?_⟩
  rw [Clause.Holds, other]
  decide

end Registrar
