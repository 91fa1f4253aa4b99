import Calculator.Parse
import Calculator.Proofs.Token.Role
import Calculator.Proofs.Tree.Rendering

/-!
# Postfix order and its trees

Reading postfix order is the inverse of listing trees in postfix order. The trees that are
read list the tokens of the text, operators behind their operands, and no other trees do
(`Tree.Lists`). A text of which there are no such trees is refused at the first token that
is a bracket or lacks operands (`Token.StopsBehind`), which is told from the tokens in front
of it alone. All of it is in `parsePostfix_eq_ok_iff_lists`.
-/

namespace Calculator

namespace Token

/-- A token as it stands in a tree: an operator of the infix table between two operands, any
other operator behind or before one. -/
def tagged (token : Token) : Token :=
  if token.kind = .number then token
  else if Operator.isInfixed token.lexeme then token.infixed
  else token.overOne

/-- How many operands a token takes in postfix order. -/
def arity (token : Token) : Nat :=
  if token.kind = .number then 0 else if Operator.isInfixed token.lexeme then 2 else 1

/-- How many trees several tokens leave, if none of them lacks an operand. -/
def height (tokens : List Token) : Int := (tokens.map gain).sum

/-- A token that cannot be read behind others: a bracket, or an operator with fewer operands
in front of it than it takes. -/
def StopsBehind (before : List Token) (token : Token) : Prop :=
  token.kind = .bracket ∨ (token.kind = .operator ∧ height before < token.arity)

/-- What is told of a token that cannot be read. -/
def refusal (token : Token) : ParseProblem :=
  if token.kind = .bracket then .misplaced token .bracketInPostfix
  else .missingOperand token .left

instance (before : List Token) : DecidablePred (StopsBehind before) := fun _ =>
  inferInstanceAs (Decidable (_ ∨ _))

theorem tagged_number {token : Token} (number : token.kind = .number) : token.tagged = token := by
  rw [tagged, if_pos number]

theorem tagged_between {token : Token} (operator : token.kind ≠ .number)
    (between : Operator.isInfixed token.lexeme = true) : token.tagged = token.infixed := by
  rw [tagged, if_neg operator, if_pos between]

theorem tagged_one {token : Token} (operator : token.kind ≠ .number)
    (single : Operator.isInfixed token.lexeme = false) : token.tagged = token.overOne := by
  rw [tagged, if_neg operator, single, if_neg Bool.false_ne_true]

@[simp] theorem tagged_kind (token : Token) : token.tagged.kind = token.kind := by
  unfold tagged
  split
  · rfl
  · split <;> rfl

@[simp] theorem tagged_lexeme (token : Token) : token.tagged.lexeme = token.lexeme := by
  unfold tagged
  split
  · rfl
  · split <;> rfl

end Token

namespace Tree

/-- Numbers have no operands, operators of the infix table two, and all others one. -/
def Ranked : Tree → Prop
  | leaf token => token.kind = .number
  | unary operator operand =>
    operator.kind = .operator ∧ Operator.isInfixed operator.lexeme = false ∧ operand.Ranked
  | binary operator left right =>
    operator.kind = .operator ∧ Operator.isInfixed operator.lexeme = true ∧
      left.Ranked ∧ right.Ranked

/-- Trees that list tokens: one after the other, operators behind their operands, they give
back the tokens in order. -/
structure Lists (trees : List Tree) (tokens : List Token) : Prop where
  ranked : ∀ tree ∈ trees, tree.Ranked
  listed : trees.flatMap postorder = tokens.map Token.tagged

variable {tokens before : List Token} {token : Token} {stack after : List Tree}

theorem lists_nil : Lists [] [] := ⟨List.forall_mem_nil _, rfl⟩

/-- A tree that takes the place of the last ones lists one more token. -/
theorem Lists.replace {front back : List Tree} {tree : Tree} (lists : Lists (front ++ back) before)
    (ranked : tree.Ranked)
    (listed : tree.postorder = back.flatMap postorder ++ [token.tagged]) :
    Lists (front ++ [tree]) (before ++ [token]) where
  ranked other member := by
    rcases List.mem_append.mp member with inside | last
    · exact lists.ranked other (List.mem_append_left _ inside)
    · exact List.mem_singleton.mp last ▸ ranked
  listed := by
    rw [List.map_append, ← lists.listed]
    simp [listed]

/-- One token keeps the trees on the stack in step with the tokens that have been read. -/
theorem Lists.shift (lists : Lists stack.reverse before) (named : token.kind ≠ .identifier)
    (shifted : shift stack token = .ok after) : Lists after.reverse (before ++ [token]) := by
  have operator (operates : Operates token) : token.kind = .operator :=
    operates.resolve_right named
  rcases cases_of_shift shifted with ⟨number, rfl⟩ |
    ⟨operates, between, left, right, rest, rfl, rfl⟩ | ⟨operates, single, operand, rest, rfl, rfl⟩
  · rw [List.reverse_cons]
    rw [← List.append_nil stack.reverse] at lists
    refine lists.replace number ?_
    rw [Token.tagged_number number]
    rfl
  · rw [List.reverse_cons, List.reverse_cons, List.append_assoc, List.singleton_append] at lists
    rw [List.reverse_cons]
    have ranked := lists.ranked
    refine lists.replace ⟨operator operates, between, ranked left ?_, ranked right ?_⟩ ?_
    · simp
    · simp
    · rw [Token.tagged_between operates.kind_ne_number between]
      simp [postorder]
  · rw [List.reverse_cons] at lists
    rw [List.reverse_cons]
    refine lists.replace ⟨operator operates, single, lists.ranked operand (by simp)⟩ ?_
    rw [Token.tagged_one operates.kind_ne_number single]
    simp [postorder]

/-- Several tokens do so, too. -/
theorem Lists.run (lists : Lists stack.reverse before)
    (named : ∀ token ∈ tokens, token.kind ≠ .identifier) (ran : run tokens stack = .ok after) :
    Lists after.reverse (before ++ tokens) := by
  induction tokens generalizing before stack with
  | nil =>
      cases ran
      rwa [List.append_nil]
  | cons token tokens ih =>
      rw [run_cons] at ran
      obtain ⟨middle, shifted, ran⟩ := exists_of_bind ran
      have later := ih (lists.shift (named token List.mem_cons_self) shifted)
        (fun other member => named other (List.mem_cons_of_mem _ member)) ran
      rwa [List.append_assoc, List.singleton_append] at later

/-- The tokens that a tree lists put it on the stack. -/
theorem Ranked.run {tree : Tree} (ranked : tree.Ranked)
    (listed : tokens.map Token.tagged = tree.postorder) (stack : List Tree) :
    Tree.run tokens stack = .ok (tree :: stack) := by
  induction tree generalizing tokens stack with
  | leaf token =>
      obtain ⟨read, rfl, same⟩ := List.map_eq_singleton_iff.mp listed
      have number : read.kind = .number := by
        rw [← read.tagged_kind, same]
        exact ranked
      rw [← same, Token.tagged_number number, run_singleton]
      exact shift_number number stack
  | unary operator operand ih =>
      obtain ⟨kind, single, inside⟩ := ranked
      rw [postorder, List.map_eq_append_iff] at listed
      obtain ⟨below, last, rfl, listed, ending⟩ := listed
      obtain ⟨read, rfl, rfl⟩ := List.map_eq_singleton_iff.mp ending
      rw [read.tagged_kind] at kind
      rw [read.tagged_lexeme] at single
      rw [run_append, ih inside listed, Except.bind, run_singleton,
        Token.tagged_one (by simp [kind]) single]
      exact shift_one kind single operand stack
  | binary operator left right leftIh rightIh =>
      obtain ⟨kind, between, first, second⟩ := ranked
      rw [postorder, List.map_eq_append_iff] at listed
      obtain ⟨front, others, rfl, firstListed, behind⟩ := listed
      rw [List.map_eq_append_iff] at behind
      obtain ⟨middle, last, rfl, secondListed, ending⟩ := behind
      obtain ⟨read, rfl, rfl⟩ := List.map_eq_singleton_iff.mp ending
      rw [read.tagged_kind] at kind
      rw [read.tagged_lexeme] at between
      rw [run_append, leftIh first firstListed, Except.bind, run_append,
        rightIh second secondListed, Except.bind, run_singleton,
        Token.tagged_between (by simp [kind]) between]
      exact shift_between kind between left right stack

/-- The tokens that trees list put these on the stack, the last one on top. -/
theorem Lists.run_eq {trees : List Tree} (lists : Lists trees tokens) (stack : List Tree) :
    Tree.run tokens stack = .ok (trees.reverse ++ stack) := by
  obtain ⟨ranked, listed⟩ := lists
  induction trees generalizing tokens stack with
  | nil =>
      obtain rfl := List.map_eq_nil_iff.mp listed.symm
      rfl
  | cons tree trees ih =>
      rw [List.flatMap_cons] at listed
      obtain ⟨front, others, rfl, firstListed, behind⟩ := List.map_eq_append_iff.mp listed.symm
      have first := ranked tree List.mem_cons_self
      rw [run_append, first.run firstListed, Except.bind,
        ih _ (fun other member => ranked other (List.mem_cons_of_mem _ member)) behind.symm,
        List.reverse_cons, List.append_assoc, List.singleton_append]

theorem Lists.unique {first second : List Tree} (lists : Lists first tokens)
    (otherwise : Lists second tokens) : first = second := by
  have same := (lists.run_eq []).symm.trans (otherwise.run_eq [])
  rw [List.append_nil, List.append_nil] at same
  exact List.reverse_injective (Except.ok.inj same)

/-- Tokens of which none is a bracket leave trees exactly if these list them. -/
theorem run_eq_ok_iff (named : ∀ token ∈ tokens, token.kind ≠ .identifier) :
    run tokens [] = .ok stack ↔ Lists stack.reverse tokens := by
  constructor
  · intro ran
    have start : Lists ([] : List Tree).reverse [] := lists_nil
    exact start.run named ran
  · intro lists
    rw [lists.run_eq, List.reverse_reverse, List.append_nil]

/-- Where brackets are read, reading stops. -/
theorem kind_ne_bracket_of_run (ran : run tokens stack = .ok after) :
    ∀ token ∈ tokens, token.kind ≠ .bracket := by
  induction tokens generalizing stack with
  | nil => exact List.forall_mem_nil _
  | cons token tokens ih =>
      rw [run_cons] at ran
      obtain ⟨middle, shifted, ran⟩ := exists_of_bind ran
      intro other member
      rcases List.mem_cons.mp member with rfl | later
      · intro bracket
        rw [shift_bracket bracket] at shifted
        cases shifted
      · exact ih ran other later

/-- A token cannot be read exactly if it is a bracket or takes more operands than there are. -/
theorem shift_eq_error_iff (named : token.kind ≠ .identifier) {problem : ParseProblem} :
    shift stack token = .error problem ↔
      (token.kind = .bracket ∨ (token.kind = .operator ∧ stack.length < token.arity)) ∧
        problem = token.refusal := by
  cases kind : token.kind with
  | identifier => exact absurd kind named
  | number => simp [shift_number kind]
  | bracket =>
      have stops : shift stack token = .error token.refusal := by
        rw [shift_bracket kind, Token.refusal, if_pos kind]
      simp [stops, eq_comm]
  | operator =>
      have missing : token.refusal = .missingOperand token .left := by
        simp [Token.refusal, kind]
      rw [shift_operator (.inl kind), missing, Token.arity, kind]
      cases between : Operator.isInfixed token.lexeme with
      | true => rcases stack with _ | ⟨right, _ | ⟨left, rest⟩⟩ <;> simp [eq_comm]
      | false => rcases stack with _ | ⟨operand, rest⟩ <;> simp [eq_comm]

/-- Behind tokens that have been read, the stack is as high as they tell. -/
theorem length_eq_height (ran : run before [] = .ok stack) :
    (stack.length : Int) = Token.height before := by
  have total := (length_of_run ran).1
  rwa [List.length_nil, Nat.cast_zero, Int.zero_add] at total

theorem stopsBehind_iff (ran : run before [] = .ok stack) (token : Token) :
    token.StopsBehind before ↔
      token.kind = .bracket ∨ (token.kind = .operator ∧ stack.length < token.arity) := by
  rw [Token.StopsBehind, ← length_eq_height ran, Int.ofNat_lt]

/-- Reading fails at one token, and all in front of it have been read. -/
theorem exists_shift_of_run {problem : ParseProblem} (failed : run tokens stack = .error problem) :
    ∃ before token behind middle, tokens = before ++ token :: behind ∧
      run before stack = .ok middle ∧ shift middle token = .error problem := by
  induction tokens generalizing stack with
  | nil => cases failed
  | cons token tokens ih =>
      rw [run_cons] at failed
      rcases error_or_exists_of_bind failed with here | ⟨middle, shifted, failed⟩
      · exact ⟨[], token, tokens, stack, rfl, rfl, here⟩
      · obtain ⟨before, other, behind, last, rfl, ran, stops⟩ := ih failed
        refine ⟨token :: before, other, behind, last, rfl, ?_, stops⟩
        rw [run_cons, shifted]
        exact ran

/-- Where several tokens have been read, none of them stops. -/
theorem not_stopsBehind_of_run {front back : List Token}
    (named : token.kind ≠ .identifier) (ran : run (front ++ token :: back) [] = .ok stack) :
    ¬ token.StopsBehind front := by
  intro stops
  rw [run_append] at ran
  obtain ⟨middle, earlier, ran⟩ := exists_of_bind ran
  rw [run_cons] at ran
  obtain ⟨further, shifted, -⟩ := exists_of_bind ran
  have refused := (shift_eq_error_iff named).mpr ⟨(stopsBehind_iff earlier token).mp stops, rfl⟩
  rw [shifted] at refused
  cases refused

/-- Reading fails exactly at the first token that stops. -/
theorem run_eq_error_iff (named : ∀ token ∈ tokens, token.kind ≠ .identifier)
    {problem : ParseProblem} :
    run tokens [] = .error problem ↔
      ∃ before token behind, tokens = before ++ token :: behind ∧ token.StopsBehind before ∧
        (∀ front next back, before = front ++ next :: back → ¬ next.StopsBehind front) ∧
        problem = token.refusal := by
  constructor
  · intro failed
    obtain ⟨before, token, behind, stack, rfl, ran, stops⟩ := exists_shift_of_run failed
    obtain ⟨reason, rfl⟩ := (shift_eq_error_iff (named token (by simp))).mp stops
    refine ⟨before, token, behind, rfl, (stopsBehind_iff ran token).mpr reason, ?_, rfl⟩
    rintro front next back rfl
    exact not_stopsBehind_of_run (named next (by simp)) ran
  · rintro ⟨before, token, behind, rfl, stops, first, rfl⟩
    rcases ran : run before [] with problem | stack
    · obtain ⟨front, next, back, middle, rfl, earlier, refused⟩ := exists_shift_of_run ran
      obtain ⟨reason, -⟩ := (shift_eq_error_iff (named next (by simp))).mp refused
      exact absurd ((stopsBehind_iff earlier next).mpr reason) (first front next back rfl)
    · have refused := (shift_eq_error_iff (named token (by simp))).mpr
        ⟨(stopsBehind_iff ran token).mp stops, rfl⟩
      rw [run_append, ran, Except.bind, run_cons, refused]
      rfl

end Tree

variable {config : Config}

theorem Token.Classified.kind_ne_identifier {token : Token} (role : Classified config token) :
    token.kind ≠ .identifier := by
  cases role with
  | literal role | constant role | function role | between role | behind role | opener role
  | closer role =>
      rw [role.1]
      decide

/-- **Reading postfix order is the inverse of listing.** Trees are read exactly if there is no
bracket among the tokens and listing the trees, operators behind their operands, gives back
the tokens; at most one list of trees does so. Reading fails exactly at the first token that
is a bracket or an operator with fewer operands in front of it than it takes, and this token
is reported, at its place. The operands in front of a token are the trees that the tokens in
front of it leave. -/
theorem parsePostfix_eq_ok_iff_lists {source : String} {tokens : List Token}
    (scanned : Token.ofSource config source = .ok tokens) :
    (∀ trees, parsePostfix config source = .ok trees ↔
      (∀ token ∈ tokens, token.kind ≠ .bracket) ∧ Tree.Lists trees tokens) ∧
    (∀ first second, Tree.Lists first tokens → Tree.Lists second tokens → first = second) ∧
    (∀ problem, parsePostfix config source = .error problem ↔
      ∃ before token behind, tokens = before ++ token :: behind ∧ token.StopsBehind before ∧
        (∀ front next back, before = front ++ next :: back → ¬ next.StopsBehind front) ∧
        problem = token.refusal) ∧
    (∀ before trees, Tree.ofPostfix before = .ok trees →
      (trees.length : Int) = Token.height before) ∧
    ∀ token : Token, token.refusal.report.position = token.position ∧
      token.refusal.report.lexeme = some token.lexeme ∧
      token.refusal.report.kind =
        if token.kind = .bracket then .trailingTokens else .missingOperand := by
  have named : ∀ token ∈ tokens, token.kind ≠ .identifier := fun token member =>
    (Token.classified_of_ofSource scanned token member).kind_ne_identifier
  have reading : parsePostfix config source = (Tree.run tokens []).map List.reverse := by
    rw [parsePostfix, scanned]
    exact Tree.ofPostfix_eq_run tokens
  refine ⟨fun trees => ⟨fun read => ?_, fun ⟨_, lists⟩ => ?_⟩,
    fun first second lists => lists.unique, fun problem => ?_, fun before trees read => ?_,
    fun token => ?_⟩
  · rw [reading] at read
    obtain ⟨stack, ran, rfl⟩ := exists_of_map read
    exact ⟨Tree.kind_ne_bracket_of_run ran, (Tree.run_eq_ok_iff named).mp ran⟩
  · rw [reading, lists.run_eq []]
    simp [Except.map]
  · rw [reading, ← Tree.run_eq_error_iff named]
    refine ⟨error_of_map, fun failed => ?_⟩
    rw [failed]
    rfl
  · obtain ⟨stack, ran, rfl⟩ := exists_of_map read
    rw [List.length_reverse]
    exact Tree.length_eq_height ran
  · unfold Token.refusal
    split <;> exact ⟨rfl, rfl, rfl⟩

/-- `3 4 -2!` has two trees; in `3 sin + )` the sum comes before the bracket. -/
theorem parsePostfix_eq_ok_iff_lists_two_trees :
    let number (spelling : String) (n : Int) (position : Nat) : Token :=
      ⟨.number, spelling, some (.number (.int n)), position, none, false⟩
    let plain (spelling : String) (position : Nat) (fixity : Option Fixity) : Token :=
      ⟨.operator, spelling, none, position, fixity, false⟩
    let tokens := [number "3" 3 0, number "4" 4 2, plain "-" 4 none, number "2" 2 5,
      plain "!" 6 none]
    let trees : List Tree := [.binary (plain "-" 4 (some .infixed)) (.leaf (number "3" 3 0))
        (.leaf (number "4" 4 2)),
      .unary (plain "!" 6 (some .suffixed)) (.leaf (number "2" 2 5))]
    let others := [number "3" 3 0, plain "sin" 2 (some .prefixed), plain "+" 6 none,
      ⟨.bracket, ")", none, 8, none, false⟩]
    Token.ofSource .standard "3 4 -2!" = .ok tokens ∧ Tree.Lists trees tokens ∧
      Token.ofSource .standard "3 sin + )" = .ok others ∧
      parsePostfix .standard "3 sin + )" = .error (.missingOperand (plain "+" 6 none) .left) := by
  intro number plain tokens trees others
  have scanned : Token.ofSource .standard "3 4 -2!" = .ok tokens := by cbv
  have read : parsePostfix .standard "3 4 -2!" = .ok trees := by cbv
  have scanned' : Token.ofSource .standard "3 sin + )" = .ok others := by cbv
  refine ⟨scanned, (((parsePostfix_eq_ok_iff_lists scanned).1 trees).mp read).2, scanned', ?_⟩
  refine ((parsePostfix_eq_ok_iff_lists scanned').2.2.1 _).mpr
    ⟨[number "3" 3 0, plain "sin" 2 (some .prefixed)], plain "+" 6 none, _, rfl, by decide, ?_, rfl⟩
  intro front next back split
  rcases front with _ | ⟨first, _ | ⟨second, front⟩⟩
  · obtain ⟨rfl, -⟩ := List.cons.inj split
    decide
  · obtain ⟨rfl, rest⟩ := List.cons.inj split
    obtain ⟨rfl, -⟩ := List.cons.inj rest
    decide
  · simp at split

end Calculator
