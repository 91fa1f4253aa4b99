import Calculator.Proofs.Expression.Outside
import Calculator.Proofs.Parse.Enclosure

/-!
# Calls with many arguments

Texts that are read on their own can be put between the brackets of a function, with commas
between them, and the text of the call is read (`Argument.parse_call`). An argument
(`Argument`) brings along what is known about its text; its tokens and its expression are
moved to its place in the call, where a comma leaves them alone (`Argument.chained`).
-/

namespace Calculator

namespace Token

/-- The comma that stands at a place. -/
def comma (position : Nat) : Token := ⟨.operator, ",", none, position, none, false⟩

/-- The function of the given name at the beginning of a text. -/
def function (name : String) : Token := ⟨.operator, name, none, 0, some .prefixed, false⟩

def opener (position : Nat) : Token := ⟨.bracket, "(", none, position, none, false⟩

def closer (position : Nat) : Token := ⟨.bracket, ")", none, position, none, false⟩

theorem isInfix_comma (position : Nat) : (comma position).IsInfix := by
  have between : Operator.isInfixed "," = true := by decide
  exact ⟨rfl, rfl, between⟩

theorem precedence_comma (position : Nat) : (comma position).infixed.precedence = -1 := by
  have weakest : Operator.precedence "," (some .infixed) = -1 := by decide
  exact weakest

/-- Every operator but a comma binds tighter than a comma. -/
theorem yieldsTo_comma (position : Nat) {edge : List Token}
    (others : ∀ token ∈ edge, token.lexeme ≠ ",") :
    Expression.YieldsTo (comma position).infixed edge := by
  intro token member
  apply Operator.bindsTighter_of_lt
  rw [precedence_comma]
  exact Operator.neg_one_lt_precedence (others token member) token.fixity

/-- A comma binds tighter than no operator. -/
theorem holdsOff_comma (position : Nat) (edge : List Token) :
    Expression.HoldsOff (comma position).infixed edge := by
  intro token _
  have left : Operator.isRightAssociative "," = false := by decide
  apply Operator.bindsTighter_eq_false left
  rw [precedence_comma]
  exact Operator.neg_one_le_precedence token.lexeme token.fixity

end Token

/-- A text that is read as an expression of its own, and that no comma splits. -/
structure Argument (config : Config) where
  source : String
  found : List Token
  expression : Expression
  complete : Token.scan 0 source.toList = (found, none)
  formed : expression.WellFormed config
  conforming : expression.Conforming
  spelled : expression.tokens = Token.spellProducts (found.map (Token.classify config))
  shallow : expression.depth ≤ config.maxDepth
  undivided : ∀ token ∈ expression.leftEdge, token.lexeme ≠ ","

variable {config : Config}

/-- Every text without a comma outside of brackets that is read is an argument. -/
theorem exists_argument {source : String} {tree : Tree}
    (read : parse config source = .ok (some tree)) (flat : ',' ∉ Text.outside 0 source.toList) :
    ∃ argument : Argument config, argument.source = source ∧ argument.expression.tree = tree := by
  obtain ⟨tokens, e, scanned, formed, conforming, same, spelled, shallow⟩ :=
    exists_shallow_of_parse read
  obtain ⟨complete, rfl⟩ := Token.scan_of_ofSource scanned
  exact ⟨⟨source, _, e, complete, formed, conforming, spelled, shallow,
    Expression.lexeme_ne_comma_of_mem_leftEdge scanned formed spelled flat⟩, rfl, same⟩

theorem exists_arguments {sources : List String} {trees : List Tree}
    (read : List.Forall₂ (fun source tree => parse config source = .ok (some tree)) sources trees)
    (flat : ∀ source ∈ sources, ',' ∉ Text.outside 0 source.toList) :
    ∃ arguments : List (Argument config), arguments.map Argument.source = sources ∧
      arguments.map (fun argument => argument.expression.tree) = trees := by
  induction read with
  | nil => exact ⟨[], rfl, rfl⟩
  | @cons source tree sources trees first _ ih =>
      obtain ⟨argument, rfl, rfl⟩ := exists_argument first (flat source List.mem_cons_self)
      obtain ⟨arguments, rfl, rfl⟩ := ih fun other member =>
        flat other (List.mem_cons_of_mem _ member)
      exact ⟨argument :: arguments, rfl, rfl⟩

/-- Where texts stand that are joined with commas. -/
def placesOf (start : Nat) : List String → List Nat
  | [] => []
  | source :: rest => start :: placesOf (start + source.length + 1) rest

namespace Argument

/-- The text behind the first argument: the others, each behind a comma, and the closing
bracket. -/
def remainder (rest : List (Argument config)) : List Char :=
  (rest.flatMap fun argument => ',' :: argument.source.toList) ++ [')']

/-- The tokens behind the first argument. -/
def tokensBehind (start : Nat) : List (Argument config) → List Token
  | [] => [.closer start]
  | argument :: rest =>
    .comma start :: (argument.found.map (Token.moved (start + 1)) ++
      tokensBehind (start + 1 + argument.source.length) rest)

/-- The arguments behind the first one, each behind its comma. -/
def steps (start : Nat) : List (Argument config) → List (Token × Expression)
  | [] => []
  | argument :: rest =>
    (.comma start, argument.expression.moved (start + 1)) ::
      steps (start + 1 + argument.source.length) rest

/-- Where the text behind the first argument ends. -/
def stop (start : Nat) : List (Argument config) → Nat
  | [] => start
  | argument :: rest => stop (start + 1 + argument.source.length) rest

theorem separated_remainder (rest : List (Argument config)) :
    ∀ c ∈ (remainder rest).head?, c ∈ separators := by
  cases rest with
  | nil =>
      rintro c ⟨⟩
      decide
  | cons argument rest =>
      rintro c ⟨⟩
      decide

/-- An argument is cut into its own tokens, wherever it stands in the call. -/
theorem scan_source (argument : Argument config) (start : Nat) {behind : List Char}
    (separated : ∀ c ∈ behind.head?, c ∈ separators) :
    Token.scan start (argument.source.toList ++ behind) =
      (argument.found.map (Token.moved start) ++
        (Token.scan (start + argument.source.length) behind).1,
        (Token.scan (start + argument.source.length) behind).2) := by
  have here := Token.scan_add start argument.complete
  rw [Nat.zero_add] at here
  rw [Token.scan_append here separated, String.length_toList]

theorem scan_remainder (start : Nat) (rest : List (Argument config)) :
    Token.scan start (remainder rest) = (tokensBehind start rest, none) := by
  induction rest generalizing start with
  | nil =>
      have ended : Token.scan (start + 1) [] = ([], none) := Token.scan_of_finished rfl
      rw [remainder, List.flatMap_nil, List.nil_append, Token.scan_bracket rfl rfl, ended]
      rfl
  | cons argument rest ih =>
      have split : remainder (argument :: rest) =
          ',' :: (argument.source.toList ++ remainder rest) := by
        simp [remainder]
      rw [split, Token.scan_comma, scan_source argument (start + 1) (separated_remainder rest), ih]
      rfl

theorem startsTerm_tokensBehind (start : Nat) (rest : List (Argument config)) :
    ((tokensBehind start rest).map (Token.classify config)).head?.any Token.startsTerm =
      false := by
  cases rest <;> rfl

/-- The tokens of an argument, with products, are those of its expression. -/
theorem spellProducts_found (argument : Argument config) (start : Nat) :
    Token.spellProducts ((argument.found.map (Token.moved start)).map (Token.classify config)) =
      (argument.expression.moved start).tokens := by
  have moves : (argument.found.map (Token.moved start)).map (Token.classify config) =
      (argument.found.map (Token.classify config)).map (Token.moved start) := by
    simp [Function.comp_def, Token.moved_classify]
  rw [moves, Token.spellProducts_moved, ← argument.spelled, Expression.tokens_moved]

/-- The same tokens, with products, are those of the steps of a chain. -/
theorem spellProducts_tokensBehind (start : Nat) (rest : List (Argument config)) :
    Token.spellProducts ((tokensBehind start rest).map (Token.classify config)) =
      ((steps start rest).flatMap fun step => step.1 :: step.2.tokens) ++
        [.closer (stop start rest)] := by
  induction rest generalizing start with
  | nil => rfl
  | cons argument rest ih =>
      have comma : (Token.comma start).classify config = .comma start := rfl
      have open' : (Token.comma start).endsTerm = false := by
        have other : Operator.isSuffixed "," = false := by decide
        exact other
      rw [tokensBehind, List.map_cons, comma, List.map_append, Token.spellProducts_cons open',
        Token.spellProducts_append (startsTerm_tokensBehind _ rest), spellProducts_found, ih]
      simp [steps, stop]

/-- The expression of a call. -/
def call (name : String) (first : Argument config) (rest : List (Argument config)) : Expression :=
  let start := name.length + 1
  let behind := start + first.source.length
  .prefixed (.function name) (.bracketed (.opener name.length)
    ((first.expression.moved start).chain (steps behind rest)) (.closer (stop behind rest)))

theorem toList_intercalate (first : Argument config) (rest : List (Argument config)) :
    (",".intercalate ((first :: rest).map Argument.source)).toList ++ [')'] =
      first.source.toList ++ remainder rest := by
  induction rest generalizing first with
  | nil => simp [remainder]
  | cons second rest ih =>
      rw [List.map_cons, List.map_cons, String.intercalate_cons_cons, String.toList_append,
        String.toList_append, List.append_assoc, ← List.map_cons, ih]
      simp [remainder]

variable {wide : Config}

/-- The text of a call is cut into the tokens of its parts. -/
theorem cut_call (constants : wide.constants = config.constants) {name : String}
    (named : isName name = true) (free : config.isConstant name = false)
    (first : Argument config) (rest : List (Argument config)) :
    Token.Cut wide 0
      (name ++ "(" ++ ",".intercalate ((first :: rest).map Argument.source) ++ ")").toList true
      (call name first rest).tokens := by
  have text : (name ++ "(" ++ ",".intercalate ((first :: rest).map Argument.source) ++
      ")").toList = name.toList ++ '(' :: (first.source.toList ++ remainder rest) := by
    rw [← toList_intercalate]
    simp
  have stands : Lexeme.Stands ⟨.identifier, name.toList, none⟩ :=
    Lexeme.stands_name (by rwa [String.ofList_toList])
  have complete : Token.scan 0 (name.toList ++ '(' :: (first.source.toList ++ remainder rest)) =
      (Token.ofLexeme 0 ⟨.identifier, name.toList, none⟩ :: .opener name.length ::
        (first.found.map (Token.moved (name.length + 1)) ++
          tokensBehind (name.length + 1 + first.source.length) rest), none) := by
    rw [Token.scan_of_stands stands 0 (by rintro c ⟨⟩; decide), Nat.zero_add,
      String.length_toList, Token.scan_bracket rfl rfl,
      scan_source first _ (separated_remainder rest), scan_remainder]
    rfl
  have same : Token.classify wide = Token.classify config :=
    Token.classify_congr fun name => by rw [Config.isConstant, Config.isConstant, constants]
  have named' : (Token.ofLexeme 0 ⟨.identifier, name.toList, none⟩).classify config =
      .function name := by
    simp [Token.classify, Token.ofLexeme, free, Token.function]
  have opener : (Token.opener name.length).classify config = .opener name.length := rfl
  have unended : (Token.function name).endsTerm = false := Operator.isSuffixed_of_isName named
  rw [text]
  refine ⟨_, complete, ?_, ?_⟩
  · rw [same, List.map_cons, named']
    rfl
  · rw [same, List.map_cons, List.map_cons, List.map_append, named', opener,
      Token.spellProducts_cons unended, Token.spellProducts_opener ⟨rfl, rfl⟩,
      Token.spellProducts_append (startsTerm_tokensBehind _ rest), spellProducts_found,
      spellProducts_tokensBehind, call, Expression.tokens, Expression.tokens,
      Expression.tokens_chain, List.append_assoc]

theorem exists_of_mem_steps {start : Nat} {rest : List (Argument config)}
    {step : Token × Expression} (member : step ∈ steps start rest) :
    ∃ (argument : Argument config) (position : Nat),
      step = (.comma position, argument.expression.moved (position + 1)) := by
  induction rest generalizing start with
  | nil => cases member
  | cons argument rest ih =>
      rcases List.mem_cons.mp member with rfl | later
      · exact ⟨argument, start, rfl⟩
      · exact ih later

/-- Arguments stand side by side: commas take in what is on their left. -/
theorem chained (strict : wide.strictBrackets = config.strictBrackets) (first : Argument config)
    (start behind : Nat) (rest : List (Argument config)) :
    Expression.Chained wide (first.expression.moved start) (steps behind rest) where
  formed := by
    refine ⟨first.formed.moved strict, fun step member => ?_⟩
    obtain ⟨argument, position, rfl⟩ := exists_of_mem_steps member
    exact ⟨Token.isInfix_comma position, argument.formed.moved strict⟩
  conforming := by
    refine ⟨first.conforming.moved, fun step member => ?_⟩
    obtain ⟨argument, position, rfl⟩ := exists_of_mem_steps member
    refine ⟨?_, argument.conforming.moved⟩
    rw [Expression.leftEdge_moved]
    exact Token.yieldsTo_comma position fun token inside => by
      obtain ⟨token, edge, rfl⟩ := List.mem_map.mp inside
      exact argument.undivided token edge
  grouped := by
    intro step member
    obtain ⟨argument, position, rfl⟩ := exists_of_mem_steps member
    exact ⟨Token.holdsOff_comma position _, fun other _ => Token.holdsOff_comma position _⟩

theorem depth_call_le (name : String) (first : Argument config) (rest : List (Argument config)) :
    (call name first rest).depth ≤ config.maxDepth + 3 := by
  refine Nat.succ_le_succ (Nat.succ_le_succ (Expression.depth_chain_le ?_ ?_))
  · rw [Expression.depth_moved]
    exact Nat.le_succ_of_le first.shallow
  · intro step member
    obtain ⟨argument, position, rfl⟩ := exists_of_mem_steps member
    rw [Expression.depth_moved]
    exact Nat.succ_le_succ argument.shallow

/-- A call is read if three more levels are allowed than for its arguments. -/
theorem parse_call (constants : wide.constants = config.constants)
    (strict : wide.strictBrackets = config.strictBrackets)
    (roomy : config.maxDepth + 3 ≤ wide.maxDepth) {name : String} (named : isName name = true)
    (free : config.isConstant name = false) (first : Argument config)
    (rest : List (Argument config)) :
    parse wide (name ++ "(" ++ ",".intercalate ((first :: rest).map Argument.source) ++ ")") =
      .ok (some (call name first rest).tree) := by
  have arguments := chained strict first (name.length + 1)
    (name.length + 1 + first.source.length) rest
  have inside := arguments.wellFormed_chain
  have readable : (call name first rest).Readable wide (config.maxDepth + 3) :=
    { formed := ⟨⟨.inl ⟨rfl, rfl, named⟩, inside.fitted⟩,
        ⟨rfl, rfl⟩, ⟨⟨rfl, rfl⟩, fun _ => rfl⟩, inside.bracketed⟩
      conforming := ⟨List.forall_mem_nil _, arguments.conforming_chain⟩
      shallow := depth_call_le name first rest }
  exact readable.parse roomy (cut_call constants named free first rest)

theorem map_tree_steps (start : Nat) (rest : List (Argument config)) :
    (steps start rest).map (fun step => step.2.tree) =
      ((placesOf (start + 1) (rest.map source)).zip (rest.map fun argument =>
        argument.expression.tree)).map fun place => place.2.moved place.1 := by
  induction rest generalizing start with
  | nil => rfl
  | cons argument rest ih =>
      rw [steps, List.map_cons, ih, Expression.tree_moved]
      rfl

/-- The tree of a call is the function over a chain of commas, with the trees of the
arguments as its operands. -/
theorem exists_tree_call (name : String) (first : Argument config)
    (rest : List (Argument config)) :
    ∃ (operand : Tree) (steps : List (Token × Tree)),
      (call name first rest).tree = .unary (.function name)
        (steps.foldl (fun tree step => .binary step.1 tree step.2) operand) ∧
      (∀ step ∈ steps, step.1.lexeme = ",") ∧
      operand :: steps.map Prod.snd = ((placesOf (name.length + 1)
        ((first :: rest).map source)).zip ((first :: rest).map fun argument =>
          argument.expression.tree)).map fun place => place.2.moved place.1 := by
  refine ⟨(first.expression.moved (name.length + 1)).tree,
    (steps (name.length + 1 + first.source.length) rest).map fun step =>
      (step.1.infixed, step.2.tree), ?_, ?_, ?_⟩
  · rw [List.foldl_map, ← Expression.tree_chain]
    rfl
  · intro step member
    obtain ⟨step, inside, rfl⟩ := List.mem_map.mp member
    obtain ⟨argument, position, rfl⟩ := exists_of_mem_steps inside
    rfl
  · rw [List.map_map, Expression.tree_moved]
    exact congrArg (first.expression.tree.moved (name.length + 1) :: ·) (map_tree_steps _ rest)

end Argument

end Calculator
