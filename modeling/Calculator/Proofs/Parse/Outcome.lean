import Calculator.Proofs.Parse.Soundness
import Calculator.Proofs.Tree.Outcome

/-!
# What reading can come to

Reading a text gives nothing exactly for white space, a tree, or one of five kinds
of problem (`parse_outcome`). That a token is misplaced is not among them: once
the items are ready for building, no operand and no operator before an operand
directly follows a complete operand at any level.
-/

namespace Calculator

open Item

variable {config : Config}

namespace Token

/-- A text without tokens is white space. -/
theorem ofSource_eq_nil_iff {source : String} :
    ofSource config source = .ok [] ↔ ∀ c ∈ source.toList, Text.isBlank c = true := by
  constructor
  · intro read
    obtain ⟨scanned, empty⟩ := scan_of_ofSource read
    have none : (scan 0 source.toList).1 = [] := List.map_eq_nil_iff.mp empty.symm
    rw [none] at scanned
    cases found : next 0 source.toList with
    | finished =>
        unfold next at found
        simp only at found
        split at found
        · rename_i blank
          exact List.dropWhile_eq_nil_iff.mp blank
        · split at found <;> cases found
    | found token stop rest =>
        rw [scan_of_found found] at scanned
        cases scanned
    | stuck error =>
        rw [scan_of_stuck found] at scanned
        cases scanned
  · intro blank
    have dropped : source.toList.dropWhile Text.isBlank = [] := List.dropWhile_eq_nil_iff.mpr blank
    have finished : next 0 source.toList = .finished := by
      unfold next
      simp only [dropped]
    rw [ofSource, ofText, scan_of_finished finished]
    rfl

theorem exists_unrecognized_of_ofSource {source : String} {problem : ParseProblem}
    (failed : ofSource config source = .error problem) :
    ∃ error, problem = .unrecognized error := by
  unfold ofSource at failed
  split at failed
  · cases failed
  · rename_i error _
    exact ⟨error, (Except.error.inj failed).symm⟩

end Token

namespace Group

/-- Operands are apart in what is prepared for building. -/
theorem spacedIn_of_prepare {tokens : List Token} {group : Group}
    (roles : ∀ token ∈ tokens, Token.Classified config token)
    (prepared : prepare config tokens = .ok group) : SpacedIn group.items := by
  obtain ⟨nested, frames, bracketed, gathered, same⟩ := exists_gather_of_prepare prepared
  have apart := (raw_of_ofTokens roles bracketed).and (apart_insertProductsIn nested.items)
  have both : HoldsIn (Raw Token.IsArrangeable) Apart (insertProductsIn nested.items) :=
    apart.imp (fun _ => And.left) fun _ _ => And.right
  rw [same]
  exact (spaced_of_gather both gathered).items

/-- Preparing fails for brackets or for depth only. -/
theorem fault_of_prepare {tokens : List Token} {problem : ParseProblem}
    (failed : prepare config tokens = .error problem) : Fault config problem := by
  rcases error_or_exists_of_bind failed with bracketed | ⟨nested, -, relocated⟩
  · exact fault_of_ofTokens bracketed
  · obtain ⟨token, rfl⟩ := eq_tooDeep_of_gather _ _ _ (error_of_map relocated)
    exact .inr (.inr rfl)

/-- Tokens are never prepared to nothing. -/
theorem eq_nil_of_prepare {tokens : List Token} {group : Group}
    (roles : ∀ token ∈ tokens, Token.Classified config token)
    (prepared : prepare config tokens = .ok group) (empty : group.items = []) : tokens = [] := by
  obtain ⟨-, spells⟩ := exists_spells_of_prepare roles prepared
  rw [empty, restoredIn_nil] at spells
  generalize products : Token.spellProducts tokens = spelled at spells
  cases spells
  cases tokens with
  | nil => rfl
  | cons token rest =>
      rw [Token.spellProducts] at products
      split at products <;> cases products

end Group

/-- What reading tokens fails for. -/
theorem Tree.fault_or_lacks_of_ofTokens {tokens : List Token} {problem : ParseProblem}
    (roles : ∀ token ∈ tokens, Token.Classified config token)
    (failed : Tree.ofTokens config tokens = .error problem) :
    Group.Fault config problem ∨ problem.Lacks := by
  rcases error_or_exists_of_bind failed with prepared | ⟨group, prepared, failed⟩
  · exact .inl (Group.fault_of_prepare prepared)
  · have spaced := Group.spacedIn_of_prepare roles prepared
    exact .inr ((Tree.ofGroup_of_spaced spaced).1 problem failed)

theorem Tree.ofTokens_eq_none_iff {tokens : List Token}
    (roles : ∀ token ∈ tokens, Token.Classified config token) :
    Tree.ofTokens config tokens = .ok none ↔ tokens = [] := by
  constructor
  · intro none
    obtain ⟨group, prepared, none⟩ := exists_of_bind none
    have spaced := Group.spacedIn_of_prepare roles prepared
    exact Group.eq_nil_of_prepare roles prepared ((Tree.ofGroup_of_spaced spaced).2 none)
  · rintro rfl
    have nested : Group.ofTokens config [] = .ok { items := [] } :=
      Group.ofTokens_of_spells .nil (Nat.zero_le _)
    have prepared : Group.prepare config [] = .ok { items := [] } := by
      rw [Group.prepare, nested]
      rfl
    rw [Tree.ofTokens, prepared]
    change Tree.ofGroup config { items := [] } = _
    rw [Tree.ofGroup_eq_readOperand, Tree.readOperand, if_neg (Nat.not_lt_zero _), Tree.read_nil]
    rfl

/-- The kinds of problem that a text can be refused for. -/
def refusals : List ProblemKind :=
  [.unrecognizedCharacter, .unbalancedBrackets, .mismatchedBrackets, .missingOperand,
    .tooDeeplyNested]

/-- **The outcomes of reading.** Nothing is read from white space only; a text that
is refused is refused for one of five kinds of problem, and for brackets that do not
match only where they have to; and operands are apart in what trees are built
from. -/
theorem parse_outcome (config : Config) (source : String) :
    ((parse config source = .ok none ↔ Token.ofSource config source = .ok []) ∧
      (parse config source = .ok none ↔ ∀ c ∈ source.toList, Text.isBlank c = true)) ∧
    (∀ problem, parse config source = .error problem →
      problem.report.kind ∈ refusals ∧
        (problem.report.kind = .mismatchedBrackets → config.strictBrackets = true)) ∧
    ∀ tokens group, Token.ofSource config source = .ok tokens →
      Group.prepare config tokens = .ok group → SpacedIn group.items := by
  have empty : parse config source = .ok none ↔ Token.ofSource config source = .ok [] := by
    unfold parse
    rcases scanned : Token.ofSource config source with problem | tokens
    · constructor <;> intro impossible <;> cases impossible
    · refine (Tree.ofTokens_eq_none_iff (Token.classified_of_ofSource scanned)).trans ?_
      exact ⟨fun none => none ▸ rfl, Except.ok.inj⟩
  refine ⟨⟨empty, empty.trans Token.ofSource_eq_nil_iff⟩, fun problem failed => ?_, ?_⟩
  · rcases error_or_exists_of_bind failed with scanned | ⟨tokens, scanned, failed⟩
    · obtain ⟨error, rfl⟩ := Token.exists_unrecognized_of_ofSource scanned
      exact ⟨List.mem_cons_self, fun other => ProblemKind.noConfusion other⟩
    · have roles := Token.classified_of_ofSource scanned
      rcases Tree.fault_or_lacks_of_ofTokens roles failed with fault | lacks
      · rcases fault with kind | ⟨kind, strict⟩ | kind
        · exact ⟨by simp [refusals, kind], fun other => absurd (kind.symm.trans other) (by decide)⟩
        · exact ⟨by simp [refusals, kind], fun _ => strict⟩
        · exact ⟨by simp [refusals, kind], fun other => absurd (kind.symm.trans other) (by decide)⟩
      · rcases lacks with kind | kind
        · exact ⟨by simp [refusals, kind], fun other => absurd (kind.symm.trans other) (by decide)⟩
        · exact ⟨by simp [refusals, kind], fun other => absurd (kind.symm.trans other) (by decide)⟩
  · intro tokens group scanned prepared
    exact Group.spacedIn_of_prepare (Token.classified_of_ofSource scanned) prepared

/-- In `2^!` the power lacks an operand, and nothing is misplaced. -/
theorem parse_outcome_power_of_suffix :
    let power : Token := ⟨.operator, "^", none, 1, some .infixed, false⟩
    parse .standard "2^!" = .error (.missingOperand power .right) ∧
      (ParseProblem.missingOperand power .right).report.kind ∈ refusals := by
  intro power
  have failed : parse .standard "2^!" = .error (.missingOperand power .right) := by cbv
  exact ⟨failed, ((parse_outcome .standard "2^!").2.1 _ failed).1⟩

end Calculator
