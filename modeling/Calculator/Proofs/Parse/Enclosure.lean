import Calculator.Proofs.Expression.Moving
import Calculator.Proofs.Parse.Depth
import Calculator.Proofs.Token.Respelling

/-!
# Brackets isolate what is inside

A text that is read on its own is read to the same tree when brackets stand around it,
whatever operators it holds and whatever stands next to the brackets (`parse_enclosed`). A
text is built up from its end: in front of what has been cut into tokens a bracketed text may
be put, a symbol or the name of a function (`Token.Cut`). At most three more levels of nesting
are needed.
-/

namespace Calculator

variable {config wide : Config}

namespace Token

theorem spellProducts_moved (offset : Nat) (tokens : List Token) :
    spellProducts (tokens.map (moved offset)) = (spellProducts tokens).map (moved offset) := by
  induction tokens with
  | nil => rfl
  | cons token rest ih =>
      have starts : (rest.map (moved offset)).head?.any startsTerm =
          rest.head?.any startsTerm := by
        cases rest <;> rfl
      have ends : (token.moved offset).endsTerm = token.endsTerm := rfl
      rw [List.map_cons, spellProducts, spellProducts, starts, ends, ih]
      split <;> rfl

/-- A bracket at a place. -/
def bracket (position : Nat) (c : Char) : Token := ofLexeme position ⟨.bracket, [c], none⟩

/-- An operator without a position among its operands, at a place. -/
def symbol (position : Nat) (text : String) : Token :=
  ⟨.operator, text, none, position, none, false⟩

theorem isOpener_bracket {pair : Char × Char} (member : pair ∈ bracketPairs) (position : Nat) :
    (bracket position pair.1).IsOpener := by
  have opens : ∀ pair ∈ bracketPairs, (closerOf? (String.ofList [pair.1])).isSome = true := by
    decide
  exact ⟨rfl, opens pair member⟩

theorem closes_bracket {pair : Char × Char} (member : pair ∈ bracketPairs) (start stop : Nat) :
    Closes config (bracket start pair.1) (bracket stop pair.2) := by
  have closes : ∀ pair ∈ bracketPairs, (closerOf? (String.ofList [pair.2])).isSome = false ∧
      closerOf? (String.ofList [pair.1]) = some (String.ofList [pair.2]) := by decide
  exact ⟨⟨rfl, (closes pair member).1⟩, fun _ => (closes pair member).2⟩

/-- The text that starts at a position is cut into tokens which, with products spelled out,
are the given ones; and it is told whether a term starts with it. -/
def Cut (config : Config) (position : Nat) (text : List Char) (starts : Bool)
    (tokens : List Token) : Prop :=
  ∃ found, scan position text = (found, none) ∧
    (found.map (classify config)).head?.any startsTerm = starts ∧
    spellProducts (found.map (classify config)) = tokens

theorem cut_nil (position : Nat) : Cut config position [] false [] :=
  ⟨[], scan_of_finished rfl, rfl, rfl⟩

/-- A lexeme that stands alone is cut off in front of a separator. -/
theorem scan_of_stands {lexeme : Lexeme} (stands : lexeme.Stands) (position : Nat)
    {rest : List Char} (separated : ∀ c ∈ rest.head?, c ∈ separators) :
    scan position (lexeme.chars ++ rest) = (ofLexeme position lexeme ::
      (scan (position + lexeme.chars.length) rest).1,
      (scan (position + lexeme.chars.length) rest).2) := by
  have found := next_of_stands stands position (.inl rfl)
  rw [List.append_nil] at found
  have alone : scan position lexeme.chars = ([ofLexeme position lexeme], none) := by
    rw [scan_of_found found, scan_of_finished rfl]
  rw [scan_append alone separated]
  rfl

section Front

variable {position : Nat} {text : String} {rest : List Char} {starts : Bool} {tokens : List Token}

/-- A symbol in front. One that ends a term has to stand in front of none. -/
theorem Cut.symbol
    (known : Operator.isInfixed text = true ∨ Operator.isSuffixed text = true)
    (separated : ∀ c ∈ rest.head?, c ∈ separators)
    (quiet : Operator.isSuffixed text = false ∨ starts = false)
    (later : Cut config (position + text.length) rest starts tokens) :
    Cut config position (text.toList ++ rest) false (symbol position text :: tokens) := by
  obtain ⟨found, complete, begins, spelled⟩ := later
  have stands := Lexeme.stands_operator (mem_operatorSpellings known)
  have here : ofLexeme position ⟨.operator, text.toList, none⟩ = Token.symbol position text := by
    rw [ofLexeme, String.ofList_toList]
    rfl
  refine ⟨Token.symbol position text :: found, ?_, rfl, ?_⟩
  · rw [scan_of_stands stands position separated, here, String.length_toList, complete]
  · have same : (Token.symbol position text).classify config = Token.symbol position text := rfl
    have silent : ((Token.symbol position text).endsTerm && starts) = false := by
      rcases quiet with open' | none
      · rw [show (Token.symbol position text).endsTerm = false from open', Bool.false_and]
      · rw [none, Bool.and_false]
    rw [List.map_cons, same, spellProducts, begins, silent, if_neg Bool.false_ne_true, spelled]

/-- The name of a function in front. -/
theorem Cut.function (named : isName text = true) (free : config.isConstant text = false)
    (separated : ∀ c ∈ rest.head?, c ∈ separators)
    (later : Cut config (position + text.length) rest starts tokens) :
    Cut config position (text.toList ++ rest) true
      (⟨.operator, text, none, position, some .prefixed, false⟩ :: tokens) := by
  obtain ⟨found, complete, begins, spelled⟩ := later
  have stands : Lexeme.Stands ⟨.identifier, text.toList, none⟩ :=
    Lexeme.stands_name (by rwa [String.ofList_toList])
  have here : (ofLexeme position ⟨.identifier, text.toList, none⟩).classify config =
      ⟨.operator, text, none, position, some .prefixed, false⟩ := by
    simp [classify, ofLexeme, free]
  refine ⟨ofLexeme position ⟨.identifier, text.toList, none⟩ :: found, ?_, ?_, ?_⟩
  · rw [scan_of_stands stands position separated, String.length_toList, complete]
  · rw [List.map_cons, here]
    rfl
  · rw [List.map_cons, here, spellProducts_cons, spelled]
    exact Operator.isSuffixed_of_isName named

end Front

end Token

/-- A text between brackets. -/
def enclose (pair : Char × Char) (source : String) : String :=
  String.singleton pair.1 ++ source ++ String.singleton pair.2

theorem toList_enclose (pair : Char × Char) (source : String) (rest : List Char) :
    (enclose pair source).toList ++ rest = pair.1 :: (source.toList ++ pair.2 :: rest) := by
  simp [enclose]

theorem separated_enclose {pair : Char × Char} (member : pair ∈ bracketPairs) (source : String)
    (rest : List Char) : ∀ c ∈ ((enclose pair source).toList ++ rest).head?, c ∈ separators := by
  have known : ∀ pair ∈ bracketPairs, pair.1 ∈ separators := by decide
  rw [toList_enclose]
  rintro c ⟨⟩
  exact known pair member

namespace Expression

/-- An expression that may be read with the given settings, and no deeper than a limit. -/
structure Readable (config : Config) (limit : Nat) (e : Expression) : Prop where
  formed : e.WellFormed config
  conforming : e.Conforming
  shallow : e.depth ≤ limit

/-- A text that is read as an expression, with products spelled out. -/
structure Written (config : Config) (source : String) (e : Expression) : Prop where
  cut : ∃ found, Token.scan 0 source.toList = (found, none) ∧
    e.tokens = Token.spellProducts (found.map (Token.classify config))
  readable : e.Readable config config.maxDepth

/-- An expression that was read from a text of the given length, between brackets of which
the first stands at a position. -/
def enclosed (pair : Char × Char) (position length : Nat) (e : Expression) : Expression :=
  .bracketed (.bracket position pair.1) (e.moved (position + 1))
    (.bracket (position + 1 + length) pair.2)

variable {e f : Expression} {source : String} {limit : Nat}

theorem tree_enclosed (pair : Char × Char) (position length : Nat) :
    (e.enclosed pair position length).tree = e.tree.moved (position + 1) :=
  tree_moved (position + 1) e

namespace Readable

theorem enclosed (readable : e.Readable config limit)
    (strict : wide.strictBrackets = config.strictBrackets) {pair : Char × Char}
    (member : pair ∈ bracketPairs) (position length : Nat) :
    (e.enclosed pair position length).Readable wide (limit + 1) where
  formed := ⟨(readable.formed.moved strict).fitted, Token.isOpener_bracket member _,
    Token.closes_bracket member _ _, (readable.formed.moved strict).bracketed⟩
  conforming := readable.conforming.moved
  shallow := by
    rw [Expression.enclosed, depth, depth_moved]
    exact Nat.succ_le_succ readable.shallow

variable {operator : Token}

/-- Operands with nothing open towards an operator may stand next to it. -/
theorem prefixed (readable : e.Readable config limit) (closed : e.leftEdge = [])
    (role : operator.IsFunction ∨ operator.IsSign) :
    (Expression.prefixed operator e).Readable config (limit + 1) where
  formed := ⟨⟨role, readable.formed.fitted⟩, readable.formed.bracketed⟩
  conforming := ⟨closed ▸ List.forall_mem_nil _, readable.conforming⟩
  shallow := Nat.succ_le_succ readable.shallow

theorem infixed (left : e.Readable config limit) (right : f.Readable config limit)
    (closedLeft : e.rightEdge = []) (closedRight : f.leftEdge = []) (role : operator.IsInfix) :
    (Expression.infixed e operator f).Readable config (limit + 1) where
  formed := ⟨⟨role, left.formed.fitted, right.formed.fitted⟩,
    left.formed.bracketed, right.formed.bracketed⟩
  conforming := ⟨closedLeft ▸ List.forall_mem_nil _, closedRight ▸ List.forall_mem_nil _,
    left.conforming, right.conforming⟩
  shallow := Nat.max_le.mpr
    ⟨Nat.le_succ_of_le left.shallow, Nat.succ_le_succ right.shallow⟩

theorem suffixed (readable : e.Readable config limit) (closed : e.rightEdge = [])
    (role : operator.IsSuffix) :
    (Expression.suffixed e operator).Readable config (limit + 2) where
  formed := ⟨⟨role, readable.formed.fitted⟩, readable.formed.bracketed⟩
  conforming := ⟨closed ▸ List.forall_mem_nil _, readable.conforming⟩
  shallow := Nat.add_le_add_right readable.shallow 2

/-- An expression is read from a text that is cut into its tokens. -/
theorem parse {starts : Bool} (readable : e.Readable config limit)
    (enough : limit ≤ config.maxDepth)
    (cut : Token.Cut config 0 source.toList starts e.tokens) :
    parse config source = .ok (some e.tree) := by
  obtain ⟨found, complete, -, spelled⟩ := cut
  have scanned : Token.ofSource config source = .ok (found.map (Token.classify config)) := by
    rw [Token.ofSource, Token.ofText, complete]
  rw [Calculator.parse, scanned]
  change Tree.ofTokens config _ = _
  rw [← Tree.ofTokens_spellProducts, spelled]
  exact ofTokens_tokens readable.formed readable.conforming (Nat.le_trans readable.shallow enough)

end Readable

theorem exists_written_of_read {tree : Tree} (read : parse config source = .ok (some tree)) :
    ∃ e : Expression, e.Written config source ∧ e.tree = tree := by
  obtain ⟨tokens, e, scanned, formed, conforming, same, spelled, shallow⟩ :=
    exists_shallow_of_parse read
  obtain ⟨complete, rfl⟩ := Token.scan_of_ofSource scanned
  exact ⟨e, ⟨⟨_, complete, spelled⟩, formed, conforming, shallow⟩, same⟩

open Token in
/-- A bracketed text in front. A product is put in behind it if a term starts there. -/
theorem Written.cut_enclosed (written : e.Written config source)
    (same : Token.classify wide = Token.classify config) {pair : Char × Char}
    (member : pair ∈ bracketPairs) {position : Nat} {rest : List Char} {starts : Bool}
    {tokens : List Token} (later : Cut wide (position + source.length + 2) rest starts tokens) :
    Cut wide position ((enclose pair source).toList ++ rest) true
      ((e.enclosed pair position source.length).tokens ++
        if starts then impliedProduct :: tokens else tokens) := by
  obtain ⟨found, complete, spelled⟩ := written.cut
  obtain ⟨behind, scanned, begins, products⟩ := later
  have known : ∀ pair ∈ bracketPairs, (isBracket pair.1 = true ∧ Text.isBlank pair.1 = false) ∧
      (isBracket pair.2 = true ∧ Text.isBlank pair.2 = false) ∧ pair.2 ∈ separators := by decide
  obtain ⟨⟨opens, visible⟩, ⟨closes, visible'⟩, separator⟩ := known pair member
  have opener := isOpener_bracket member position
  have closer : (bracket (position + 1 + source.length) pair.2).IsCloser :=
    (@closes_bracket wide _ member position _).1
  have separated : ∀ c ∈ (pair.2 :: rest).head?, c ∈ separators := by
    rintro c ⟨⟩
    exact separator
  have inside : scan (position + 1) source.toList =
      (found.map (Token.moved (position + 1)), none) := by
    have later := scan_add (position + 1) complete
    rwa [Nat.zero_add] at later
  refine ⟨bracket position pair.1 :: (found.map (Token.moved (position + 1)) ++
    bracket (position + 1 + source.length) pair.2 :: behind), ?_, ?_, ?_⟩
  · have place : position + 1 + source.length + 1 = position + source.length + 2 := by omega
    rw [toList_enclose, scan_bracket opens visible, scan_append inside separated,
      String.length_toList, scan_bracket closes visible', place, scanned]
    rfl
  · exact startsTerm_of_isOpener opener
  · have moves : (found.map (Token.moved (position + 1))).map (classify wide) =
        (found.map (classify config)).map (Token.moved (position + 1)) := by
      rw [same]
      simp [Function.comp_def, moved_classify]
    have opener' : (bracket position pair.1).classify wide = bracket position pair.1 := rfl
    have closer' : (bracket (position + 1 + source.length) pair.2).classify wide =
        bracket (position + 1 + source.length) pair.2 := rfl
    have quiet : (bracket (position + 1 + source.length) pair.2 ::
        behind.map (classify wide)).head?.any startsTerm = false := startsTerm_of_isCloser closer
    rw [List.map_cons, List.map_append, List.map_cons, opener', closer', moves,
      spellProducts_opener opener, spellProducts_append quiet,
      spellProducts_closer closer, spellProducts_moved, ← spelled, spellBehind, begins, products,
      enclosed, Expression.tokens, tokens_moved]
    simp

namespace Written

variable {a b text : String} {first second : Char × Char} (written : e.Written config a)
  (written' : f.Written config b) (same : Token.classify wide = Token.classify config)
  (strict : wide.strictBrackets = config.strictBrackets)
  (roomy : config.maxDepth + 3 ≤ wide.maxDepth) (inFirst : first ∈ bracketPairs)
  (inSecond : second ∈ bracketPairs)

include written same strict roomy inFirst

theorem parse_enclose : parse wide (enclose first a) = .ok (some (e.tree.moved 1)) := by
  have cut := written.cut_enclosed same inFirst (Token.cut_nil (0 + a.length + 2))
  rw [List.append_nil, if_neg Bool.false_ne_true, List.append_nil] at cut
  have read := (written.readable.enclosed strict inFirst 0 a.length).parse (by omega) cut
  rw [tree_enclosed] at read
  exact read

theorem parse_function (named : isName text = true) (free : wide.isConstant text = false) :
    parse wide (text ++ enclose first a) =
      .ok (some (.unary ⟨.operator, text, none, 0, some .prefixed, false⟩
        (e.tree.moved (text.length + 1)))) := by
  have inside := written.cut_enclosed same inFirst (Token.cut_nil (0 + text.length + a.length + 2))
  have cut := inside.function named free (separated_enclose inFirst a [])
  rw [List.append_nil, ← String.toList_append, if_neg Bool.false_ne_true, List.append_nil,
    Nat.zero_add] at cut
  have readable := written.readable.enclosed strict inFirst text.length a.length
  have read := (readable.prefixed rfl (.inl ⟨rfl, rfl, named⟩)).parse (by omega) cut
  rw [Expression.tree, tree_enclosed] at read
  exact read

theorem parse_sign : parse wide ("-" ++ enclose first a) =
    .ok (some (.unary ⟨.operator, "negate", none, 0, some .prefixed, false⟩ (e.tree.moved 2))) := by
  have inside := written.cut_enclosed same inFirst (Token.cut_nil (0 + 1 + a.length + 2))
  have cut := @Token.Cut.symbol wide 0 "-" _ _ _ (.inl (by decide))
    (separated_enclose inFirst a []) (.inl (by decide)) inside
  rw [List.append_nil, ← String.toList_append, if_neg Bool.false_ne_true, List.append_nil] at cut
  have readable := written.readable.enclosed strict inFirst 1 a.length
  have read := (readable.prefixed rfl (.inr ⟨rfl, rfl, rfl⟩)).parse (by omega) cut
  rw [Expression.tree, tree_enclosed] at read
  exact read

theorem parse_suffix (known : Operator.isSuffixed text = true) :
    parse wide (enclose first a ++ text) =
      .ok (some (.unary ⟨.operator, text, none, (a.length + 2 : Nat), some .suffixed, false⟩
        (e.tree.moved 1))) := by
  have behind := @Token.Cut.symbol wide (0 + a.length + 2) text [] _ _ (.inr known)
    (fun _ absent => absurd absent (Option.not_mem_none _)) (.inr rfl) (Token.cut_nil _)
  have cut := written.cut_enclosed same inFirst behind
  rw [List.append_nil, ← String.toList_append, if_neg Bool.false_ne_true, Nat.zero_add] at cut
  have readable := written.readable.enclosed strict inFirst 0 a.length
  have read := (readable.suffixed rfl ⟨rfl, rfl, known⟩).parse (by omega) cut
  rw [Expression.tree, tree_enclosed] at read
  exact read

include written' inSecond

theorem parse_between (known : Operator.isInfixed text = true) :
    parse wide (enclose first a ++ text ++ enclose second b) =
      .ok (some (.binary ⟨.operator, text, none, (a.length + 2 : Nat), some .infixed, false⟩
        (e.tree.moved 1) (f.tree.moved (a.length + text.length + 3)))) := by
  have single : Operator.isSuffixed text = false := by
    refine Bool.eq_false_iff.mpr fun suffix => ?_
    rw [Operator.isInfixed_eq_false suffix] at known
    cases known
  have place : 0 + a.length + 2 + text.length = a.length + text.length + 2 := by omega
  have last := written'.cut_enclosed same inSecond
    (Token.cut_nil (0 + a.length + 2 + text.length + b.length + 2))
  have behind := last.symbol (.inl known) (separated_enclose inSecond b []) (.inl single)
  have cut := written.cut_enclosed same inFirst behind
  rw [List.append_nil, ← String.toList_append, ← String.toList_append, ← String.append_assoc,
    if_neg Bool.false_ne_true, if_neg Bool.false_ne_true, List.append_nil, place,
    Nat.zero_add] at cut
  have left := written.readable.enclosed strict inFirst 0 a.length
  have right := written'.readable.enclosed strict inSecond (a.length + text.length + 2) b.length
  have read := (left.infixed right rfl rfl ⟨rfl, rfl, known⟩).parse (by omega) cut
  rw [Expression.tree, tree_enclosed, tree_enclosed] at read
  exact read

theorem parse_touching : parse wide (enclose first a ++ enclose second b) =
    .ok (some (.binary ⟨.operator, "*", none, -1, some .infixed, false⟩ (e.tree.moved 1)
      (f.tree.moved (a.length + 3)))) := by
  have behind := written'.cut_enclosed same inSecond
    (Token.cut_nil (0 + a.length + 2 + b.length + 2))
  have cut := written.cut_enclosed same inFirst behind
  rw [List.append_nil, ← String.toList_append, if_neg Bool.false_ne_true, if_pos rfl,
    List.append_nil, Nat.zero_add] at cut
  have left := written.readable.enclosed strict inFirst 0 a.length
  have right := written'.readable.enclosed strict inSecond (a.length + 2) b.length
  have read := (left.infixed right rfl rfl Token.isInfix_impliedProduct).parse (by omega) cut
  rw [Expression.tree, tree_enclosed, tree_enclosed] at read
  exact read

end Written

end Expression

open Expression in
/-- **Brackets isolate.** What texts are read as on their own stays the same between brackets
of any kind: alone, on both sides of an operator, as the operand of a function, of a sign or
of a suffix, and where two bracketed texts touch and are multiplied. Three more levels of
nesting are enough. -/
theorem parse_enclosed (constants : ∀ name, wide.isConstant name = config.isConstant name)
    (strict : wide.strictBrackets = config.strictBrackets)
    (roomy : config.maxDepth + 3 ≤ wide.maxDepth) {a b : String} {left right : Tree}
    (readLeft : parse config a = .ok (some left)) (readRight : parse config b = .ok (some right))
    {first second : Char × Char} (inFirst : first ∈ bracketPairs)
    (inSecond : second ∈ bracketPairs) :
    parse wide (enclose first a) = .ok (some (left.moved 1)) ∧
    (∀ text, Operator.isInfixed text = true →
      parse wide (enclose first a ++ text ++ enclose second b) =
        .ok (some (.binary ⟨.operator, text, none, (a.length + 2 : Nat), some .infixed, false⟩
          (left.moved 1) (right.moved (a.length + text.length + 3))))) ∧
    (∀ name, isName name = true → config.isConstant name = false →
      parse wide (name ++ enclose first a) =
        .ok (some (.unary ⟨.operator, name, none, 0, some .prefixed, false⟩
          (left.moved (name.length + 1))))) ∧
    parse wide ("-" ++ enclose first a) =
      .ok (some (.unary ⟨.operator, "negate", none, 0, some .prefixed, false⟩ (left.moved 2))) ∧
    (∀ text, Operator.isSuffixed text = true →
      parse wide (enclose first a ++ text) =
        .ok (some (.unary ⟨.operator, text, none, (a.length + 2 : Nat), some .suffixed, false⟩
          (left.moved 1)))) ∧
    parse wide (enclose first a ++ enclose second b) =
      .ok (some (.binary ⟨.operator, "*", none, -1, some .infixed, false⟩ (left.moved 1)
        (right.moved (a.length + 3)))) := by
  obtain ⟨e, written, rfl⟩ := exists_written_of_read readLeft
  obtain ⟨f, written', rfl⟩ := exists_written_of_read readRight
  have same := Token.classify_congr constants
  refine ⟨written.parse_enclose same strict roomy inFirst, fun text known => ?_,
    fun name named free => ?_, written.parse_sign same strict roomy inFirst,
    fun text known => written.parse_suffix same strict roomy inFirst known,
    written.parse_touching written' same strict roomy inFirst inSecond⟩
  · exact written.parse_between written' same strict roomy inFirst inSecond known
  · exact written.parse_function same strict roomy inFirst named ((constants name).trans free)

/-- In `(1-2)^[3,4!]` the power takes the whole difference and the whole pair, and in
`f(3,4!)` the function takes the pair. -/
theorem parse_enclosed_difference_and_pair :
    let config : Config := { maxDepth := 3 }
    let wide : Config := { maxDepth := 6 }
    let number (n : Int) (position : Nat) : Tree :=
      .leaf ⟨.number, toString n, some (.number (.int n)), position, none, false⟩
    let difference (position : Nat) : Tree :=
      .binary ⟨.operator, "-", none, (position + 1 : Nat), some .infixed, false⟩
        (number 1 position) (number 2 (position + 2))
    let pair (position : Nat) : Tree :=
      .binary ⟨.operator, ",", none, (position + 1 : Nat), some .infixed, false⟩
        (number 3 position) (.unary ⟨.operator, "!", none, (position + 3 : Nat), some .suffixed,
          false⟩ (number 4 (position + 2)))
    (parse config "1-2" = .ok (some (difference 0)) ∧ parse config "3,4!" = .ok (some (pair 0))) ∧
      parse wide "(1-2)^[3,4!]" = .ok (some (.binary
        ⟨.operator, "^", none, 5, some .infixed, false⟩ (difference 1) (pair 7))) ∧
      parse wide "f[3,4!]" = .ok (some (.unary
        ⟨.operator, "f", none, 0, some .prefixed, false⟩ (pair 2))) := by
  intro config wide number difference pair
  have first : parse config "1-2" = .ok (some (difference 0)) := by cbv
  have second : parse config "3,4!" = .ok (some (pair 0)) := by cbv
  have both := @parse_enclosed config wide (fun _ => rfl) rfl (Nat.le_refl 6) _ _ _ _ first second
    ('(', ')') ('[', ']') (by decide) (by decide)
  have call := @parse_enclosed config wide (fun _ => rfl) rfl (Nat.le_refl 6) _ _ _ _ second first
    ('[', ']') ('(', ')') (by decide) (by decide)
  exact ⟨⟨first, second⟩, both.2.1 "^" (by decide), call.2.2.1 "f" (by decide) (by decide)⟩

end Calculator
