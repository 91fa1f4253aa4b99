import Calculator.Evaluator.Rendering
import Calculator.Proofs.Token.Respelling
import Calculator.Proofs.Tree.Postfix

/-!
# Trees written in postfix order

The postfix evaluator lists the tokens of a tree, operators behind their operands,
with spaces between them (`Tree.evaluate_postfixed`). Without an overflow the stack
of the reader ends up with that tree on top (`Tree.exists_run_echo`). A literal that
overflowed is read as an operator and leaves the stack one tree short
(`Tree.sum_gain_echo`).
-/

namespace Calculator

/-- All constants have a symbol, which the rendering evaluators need. -/
def Config.Shown (config : Config) : Prop :=
  ∀ name ∈ config.constants, name ∈ ["pi", "e", "phi", "i", "I"]

instance : DecidablePred Config.Shown := fun config =>
  inferInstanceAs (Decidable (∀ name ∈ config.constants, _))

/-- Other names are names of functions. -/
theorem Config.Shown.isConstant_eq_false {config : Config} (shown : config.Shown) {name : String}
    (other : name ∉ ["pi", "e", "phi", "i", "I"]) : config.isConstant name = false := by
  rw [isConstant, Bool.eq_false_iff]
  intro known
  exact other (shown name (List.contains_iff_mem.mp known))

namespace Tree

/-- The tokens of a tree, operators behind their operands. -/
def postorder : Tree → List Token
  | leaf token => [token]
  | unary operator operand => operand.postorder ++ [operator]
  | binary operator left right => left.postorder ++ (right.postorder ++ [operator])

/-- A tree without places and without the spelling of literals. -/
def essence : Tree → Tree
  | leaf token => leaf token.meaning
  | unary operator operand => unary operator.unplaced operand.essence
  | binary operator left right => binary operator.unplaced left.essence right.essence

/-- A tree whose tokens can be written and read again. -/
inductive Readable (config : Config) : Tree → Prop
  | leaf {token : Token} (role : token.IsLeafOf config) : Readable config (leaf token)
  | unary {operator : Token} {operand : Tree} (role : operator.TakesOne config)
      (inside : Readable config operand) : Readable config (unary operator operand)
  | binary {operator : Token} {left right : Tree} (role : operator.TakesTwo)
      (first : Readable config left) (second : Readable config right) :
      Readable config (binary operator left right)

variable {config : Config} {tree : Tree}

theorem postorder_ne_nil (tree : Tree) : tree.postorder ≠ [] := by
  cases tree <;> simp [postorder]

/-- Trees of the same essence have the same outline. -/
theorem outline_essence (tree : Tree) : tree.essence.outline = tree.outline := by
  induction tree with
  | leaf token =>
      rcases value : token.value with _ | literal <;>
        simp [essence, outline, Token.meaning, Token.unplaced, value]
  | unary operator operand ih => rw [essence, outline, outline, ih]; rfl
  | binary operator left right leftIh rightIh =>
      rw [essence, outline, outline, leftIh, rightIh]
      rfl

theorem Readable.forall_mem (readable : tree.Readable config) :
    ∀ token ∈ tree.postorder,
      token.IsLeafOf config ∨ token.TakesOne config ∨ token.TakesTwo := by
  induction readable with
  | leaf role => simpa [postorder] using .inl role
  | unary role inside ih =>
      intro token member
      rcases List.mem_append.mp member with below | last
      · exact ih token below
      · obtain rfl := List.mem_singleton.mp last
        exact .inr (.inl role)
  | binary role first second firstIh secondIh =>
      intro token member
      rcases List.mem_append.mp member with below | behind
      · exact firstIh token below
      rcases List.mem_append.mp behind with below | last
      · exact secondIh token below
      · obtain rfl := List.mem_singleton.mp last
        exact .inr (.inr role)

/-- What the postfix evaluator writes for a tree. -/
def respelled (tree : Tree) : String :=
  " ".intercalate (tree.postorder.map fun token => String.ofList token.respelled.chars)

theorem toList_respelled (tree : Tree) :
    tree.respelled.toList = Lexeme.spaced (tree.postorder.map Token.respelled) := by
  rw [respelled, String.toList_intercalate, Lexeme.spaced]
  simp [Function.comp_def]

theorem respelled_unary (operator : Token) (operand : Tree) :
    (unary operator operand).respelled =
      " ".intercalate [operand.respelled, String.ofList operator.respelled.chars] := by
  rw [respelled, postorder, List.map_append,
    String.intercalate_append_of_ne_nil (by simp [postorder_ne_nil]) (by simp)]
  simp [respelled, String.intercalate_cons_cons]

theorem respelled_binary (operator : Token) (left right : Tree) :
    (binary operator left right).respelled =
      " ".intercalate [left.respelled, right.respelled,
        String.ofList operator.respelled.chars] := by
  rw [respelled, postorder, List.map_append, List.map_append,
    String.intercalate_append_of_ne_nil (by simp [postorder_ne_nil]) (by simp),
    String.intercalate_append_of_ne_nil (by simp [postorder_ne_nil]) (by simp)]
  simp [respelled, String.intercalate_cons_cons]

/-- An evaluator that writes values writes literals as they are respelled. -/
theorem leafValue_literal {evaluator : Evaluator} (writes : evaluator.literal = Rendering.literal)
    {token : Token} (role : token.IsLiteral) :
    evaluator.leafValue token = .ok (.text (String.ofList token.respelled.chars)) := by
  obtain ⟨-, -, operative, numeral, value⟩ := role
  have shown : (Value.ofNumber numeral.value).shown = numeral.value.text := by
    cases numeral.value <;> rfl
  rw [Evaluator.leafValue, operative, if_neg Bool.false_ne_true, value, writes,
    Token.chars_respelled_number value, String.ofList_toList, ← shown]
  rfl

/-- Constants are written with their names. -/
theorem leafValue_constant {token : Token} (shown : config.Shown)
    (role : token.IsConstantOf config) :
    Evaluator.postfixed.leafValue token =
      .ok (.text (String.ofList token.respelled.chars)) := by
  obtain ⟨-, -, constant, valueless, -, known⟩ := role
  have symbol := shown token.lexeme (List.contains_iff_mem.mp known)
  rw [Evaluator.leafValue, constant, if_pos rfl, Token.respelled_of_valueless valueless,
    String.ofList_toList]
  generalize token.lexeme = name at symbol
  simp only [List.mem_cons, List.not_mem_nil, or_false] at symbol
  rcases symbol with rfl | rfl | rfl | rfl | rfl <;> rfl

theorem apply_one {operator : Token} (valueless : operator.value = none) (operand : String) :
    Evaluator.postfixed.apply operator [.text operand] =
      .ok (.text (" ".intercalate [operand, String.ofList operator.respelled.chars])) := by
  rw [Token.respelled_of_valueless valueless, String.ofList_toList]
  rfl

theorem apply_two {operator : Token} (valueless : operator.value = none) (left right : String) :
    Evaluator.postfixed.apply operator [.text left, .text right] =
      .ok (.text (" ".intercalate [left, right, String.ofList operator.respelled.chars])) := by
  rw [Token.respelled_of_valueless valueless, String.ofList_toList]
  rfl

/-- The postfix evaluator writes every tree that was read. -/
theorem evaluate_postfixed (shown : config.Shown) (readable : tree.Readable config) :
    Evaluator.postfixed.evaluate tree = .ok (.text tree.respelled) := by
  induction readable with
  | leaf role =>
      rw [Evaluator.evaluate, respelled, postorder, List.map_singleton,
        String.intercalate_singleton]
      rcases role with literal | constant
      · exact leafValue_literal rfl literal
      · exact leafValue_constant shown constant
  | unary role inside ih =>
      rw [Evaluator.evaluate, ih, respelled_unary]
      exact apply_one role.valueless _
  | binary role first second firstIh secondIh =>
      rw [Evaluator.evaluate, firstIh, secondIh, respelled_binary]
      exact apply_two role.valueless _ _

/-- What was written is read as the tokens of the tree. -/
theorem exists_ofSource_respelled (readable : tree.Readable config) :
    ∃ tokens, Token.ofSource config tree.respelled = .ok tokens ∧
      tokens.map Token.unplaced = tree.postorder.map (Token.echo config) := by
  have stand : ∀ lexeme ∈ tree.postorder.map Token.respelled, lexeme.Stands := by
    intro lexeme member
    obtain ⟨token, inside, rfl⟩ := List.mem_map.mp member
    exact Token.stands_respelled (readable.forall_mem token inside)
  obtain ⟨tokens, scanned, same⟩ := Token.scan_spaced stand 0
  refine ⟨tokens.map (Token.classify config), ?_, ?_⟩
  · rw [Token.ofSource, Token.ofText, toList_respelled, scanned]
  · have placed : tokens.map (fun token => (token.classify config).unplaced) =
        (tokens.map Token.unplaced).map (Token.classify config) := by
      simp [Token.classify_unplaced]
    rw [List.map_map, Function.comp_def, placed, same, List.map_map, List.map_map]
    rfl

variable {tokens : List Token}

/-- Without an overflow, reading what was written for a tree puts a tree with the same
essence on the stack. -/
theorem exists_run_echo (readable : tree.Readable config)
    (finite : ∀ token ∈ tree.postorder, ¬ token.Overflows)
    (same : tokens.map Token.unplaced = tree.postorder.map (Token.echo config))
    (stack : List Tree) :
    ∃ again, run tokens stack = .ok (again :: stack) ∧ again.essence = tree.essence := by
  induction readable generalizing tokens stack with
  | @leaf token role =>
      obtain ⟨read, rfl, alike⟩ := List.map_eq_singleton_iff.mp same
      obtain ⟨number, meaning⟩ := role.echo (finite token List.mem_cons_self)
      rw [← alike] at number meaning
      rw [run_singleton]
      have kind : read.kind = .number := number
      exact ⟨leaf read, shift_number kind stack, congrArg leaf meaning⟩
  | @unary operator operand role inside ih =>
      rw [postorder, List.map_append, List.map_eq_append_iff] at same
      obtain ⟨below, last, rfl, alike, ending⟩ := same
      obtain ⟨read, rfl, top⟩ := List.map_eq_singleton_iff.mp ending
      obtain ⟨again, ran, sameBelow⟩ :=
        ih (fun token member => finite token (List.mem_append_left _ member)) alike stack
      obtain ⟨single, position⟩ := role.echo
      rw [← top] at position
      have kind : read.kind = .operator := (congrArg Token.kind position :).trans role.kind
      have lexeme : read.lexeme = operator.lexeme := (congrArg Token.lexeme position :)
      refine ⟨unary read.overOne again, ?_, ?_⟩
      · rw [run_append, ran, Except.bind, run_singleton]
        exact shift_one kind (lexeme ▸ single) again stack
      · rw [essence, essence, sameBelow]
        exact congrArg (unary · operand.essence) position
  | @binary operator left right role first second firstIh secondIh =>
      rw [postorder, List.map_append, List.map_eq_append_iff] at same
      obtain ⟨before, others, rfl, firstAlike, behind⟩ := same
      rw [List.map_append, List.map_eq_append_iff] at behind
      obtain ⟨between, last, rfl, secondAlike, ending⟩ := behind
      obtain ⟨read, rfl, top⟩ := List.map_eq_singleton_iff.mp ending
      obtain ⟨firstAgain, firstRan, firstSame⟩ :=
        firstIh (fun token member => finite token (by simp [postorder, member])) firstAlike stack
      obtain ⟨secondAgain, secondRan, secondSame⟩ :=
        secondIh (fun token member => finite token (by simp [postorder, member])) secondAlike
          (firstAgain :: stack)
      have position : (operator.echo config).infixed = operator.unplaced := role.echo
      rw [← top] at position
      have kind : read.kind = .operator := (congrArg Token.kind position :).trans role.kind
      have lexeme : read.lexeme = operator.lexeme := (congrArg Token.lexeme position :)
      refine ⟨binary read.infixed firstAgain secondAgain, ?_, ?_⟩
      · rw [run_append, firstRan, Except.bind, run_append, secondRan, Except.bind, run_singleton]
        exact shift_between kind (lexeme ▸ role.known) firstAgain secondAgain stack
      · rw [essence, essence, firstSame, secondSame]
        exact congrArg (binary · left.essence right.essence) position

/-- Every literal that overflowed costs the stack a tree. -/
theorem sum_gain_echo (free : config.isConstant "inf" = false) (readable : tree.Readable config) :
    (tree.postorder.map fun token => (token.echo config).gain).sum =
      1 - (tree.postorder.countP fun token => decide token.Overflows : Nat) := by
  induction readable with
  | @leaf token role =>
      by_cases exceeds : token.Overflows
      · have operator : (⟨.operator, "inf", none, 0, some .prefixed, false⟩ : Token).gain = 0 := by
          decide
        simp [postorder, Token.echo_of_overflows exceeds free, operator, exceeds]
      · simp [postorder, Token.gain, (role.echo exceeds).1, exceeds]
  | @unary operator operand role inside ih =>
      obtain ⟨single, position⟩ := role.echo
      have read : (operator.echo config).overOne.gain = operator.gain := by
        rw [position]
        rfl
      have gain : (operator.echo config).gain = 0 := by
        apply read.trans
        simp [Token.gain, role.kind, single]
      have finite := Token.not_overflows_of_valueless role.valueless
      rw [postorder, List.map_append, List.sum_append, ih]
      simp [gain, finite]
  | @binary operator left right role first second firstIh secondIh =>
      have read : (operator.echo config).infixed.gain = operator.gain := by
        rw [role.echo]
        rfl
      have gain : (operator.echo config).gain = -1 := by
        apply read.trans
        simp [Token.gain, role.kind, role.known]
      have finite := Token.not_overflows_of_valueless role.valueless
      rw [postorder, List.map_append, List.map_append, List.sum_append, List.sum_append, firstIh,
        secondIh]
      simp only [List.map_singleton, List.sum_singleton, gain, List.countP_append,
        List.countP_singleton, finite, decide_false, Bool.false_eq_true, ↓reduceIte]
      omega

/-- After an overflow an operand is missing. -/
theorem exists_missing_of_overflows (free : config.isConstant "inf" = false)
    (readable : tree.Readable config) (exceeds : ∃ token ∈ tree.postorder, token.Overflows)
    (same : tokens.map Token.unplaced = tree.postorder.map (Token.echo config)) :
    ∃ token, run tokens [] = .error (.missingOperand token .left) := by
  have plain : ∀ token ∈ tokens, token.kind ≠ .bracket := by
    intro token member
    have read : token.unplaced ∈ tree.postorder.map (Token.echo config) :=
      same ▸ List.mem_map_of_mem member
    obtain ⟨written, -, echo⟩ := List.mem_map.mp read
    exact (congrArg Token.kind echo :) ▸ written.kind_echo_ne_bracket
  rcases ran : run tokens [] with problem | after
  · obtain ⟨token, -, rfl⟩ := exists_missing_of_run plain ran
    exact ⟨token, rfl⟩
  · obtain ⟨height, nonempty⟩ := length_of_run ran
    have gains : (tokens.map Token.gain).sum =
        1 - (tree.postorder.countP fun token => decide token.Overflows : Nat) := by
      rw [← sum_gain_echo free readable]
      have read := congrArg (List.map Token.gain) same
      rw [List.map_map, List.map_map] at read
      exact congrArg List.sum read
    have lost : 0 < tree.postorder.countP fun token => decide token.Overflows := by
      rw [List.countP_pos_iff]
      obtain ⟨token, member, infinite⟩ := exceeds
      exact ⟨token, member, decide_eq_true infinite⟩
    have some : tokens ≠ [] := by
      rintro rfl
      exact postorder_ne_nil tree (List.map_eq_nil_iff.mp same.symm)
    have present := List.length_pos_iff.mpr (nonempty some)
    rw [gains, List.length_nil] at height
    omega

end Tree

end Calculator
