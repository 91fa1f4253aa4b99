import Calculator.Proofs.Expression.Outside
import Calculator.Proofs.Group.Insertion
import Calculator.Proofs.Parse.Respacing

/-!
# Implied products spelled out

Products that are implied may be written in the text. With a space between any two tokens
the text is cut into the tokens it was made from (`Token.exists_ofSource_intercalate`), and
it is read to the same outline as without them, or refused for the same kind of problem
(`parse_spelled_products`).
-/

namespace Calculator

namespace Token

variable {config : Config} {tokens : List Token}

/-- Single spaces between tokens, as gaps in front of each. -/
def singleGaps : List Token → List (List Char)
  | [] => []
  | _ :: rest => [] :: rest.map fun _ => [' ']

theorem gaps_singleGaps (tokens : List Token) : Gaps (singleGaps tokens) tokens [] := by
  cases tokens with
  | nil => exact ⟨rfl, by simp [singleGaps, Text.Blank], by simp [singleGaps]⟩
  | cons token rest =>
      have blank : Text.isBlank ' ' = true := by decide
      exact ⟨by simp [singleGaps], by simp [singleGaps, Text.Blank, blank], by simp [singleGaps]⟩

/-- Tokens joined by spaces are laid out with single spaces between them. -/
theorem toList_intercalate_lexemes (tokens : List Token) :
    (" ".intercalate (tokens.map lexeme)).toList = layOut (singleGaps tokens) tokens [] := by
  rw [String.toList_intercalate]
  cases tokens with
  | nil => rfl
  | cons token rest =>
      induction rest generalizing token with
      | nil => simp [layOut, singleGaps]
      | cons next others ih =>
          have later := ih next
          simp only [layOut, singleGaps, List.map_cons, List.zipWith_cons_cons, List.flatten_cons,
            List.nil_append, List.append_nil] at later ⊢
          rw [List.intercalate_cons_cons, later]
          simp

/-- Tokens that are classified from tokens that stand alone. -/
theorem exists_unclassified
    (known : ∀ token ∈ tokens, ∃ raw : Token, raw.StandsAlone ∧ raw.classify config = token) :
    ∃ raws : List Token, (∀ raw ∈ raws, raw.StandsAlone) ∧ raws.map (classify config) = tokens := by
  induction tokens with
  | nil => exact ⟨[], List.forall_mem_nil _, rfl⟩
  | cons token rest ih =>
      obtain ⟨raw, alone, same⟩ := known token List.mem_cons_self
      obtain ⟨raws, others, later⟩ := ih fun other member =>
        known other (List.mem_cons_of_mem _ member)
      exact ⟨raw :: raws, List.forall_mem_cons.mpr ⟨alone, others⟩, by
        rw [List.map_cons, same, later]⟩

/-- Tokens joined by spaces are read again. -/
theorem exists_ofSource_intercalate
    (known : ∀ token ∈ tokens, ∃ raw : Token, raw.StandsAlone ∧ raw.classify config = token) :
    ∃ placed, ofSource config (" ".intercalate (tokens.map lexeme)) = .ok placed ∧
      placed.map placeless = tokens.map placeless := by
  obtain ⟨raws, alone, rfl⟩ := exists_unclassified known
  have spelled : (raws.map (classify config)).map lexeme = raws.map lexeme := by
    simp [Function.comp_def, classify_lexeme]
  have spaced := gaps_singleGaps raws
  have read := ofText_layOut alone spaced
  rw [← toList_intercalate_lexemes, String.ofList_toList] at read
  refine ⟨(laidOut 0 (singleGaps raws) raws).map (classify config), ?_, ?_⟩
  · rw [spelled, ofSource, read]
  · have places := congrArg (List.map (classify config)) (placeless_laidOut spaced 0)
    simpa [Function.comp_def, classify_placeless] using places

theorem standsAlone_impliedProduct : impliedProduct.StandsAlone :=
  ⟨⟨.operator, ['*'], none⟩, Lexeme.longest_of_operator? rfl, rfl⟩

/-- With products spelled out the tokens of a text still stand alone. -/
theorem exists_raw_of_mem_spellProducts {source : String}
    (read : ofSource config source = .ok tokens) :
    ∀ token ∈ spellProducts tokens,
      ∃ raw : Token, raw.StandsAlone ∧ raw.classify config = token := by
  intro token member
  obtain ⟨scanned, rfl⟩ := scan_of_ofSource read
  rcases mem_of_mem_spellProducts member with inside | rfl
  · obtain ⟨raw, found, rfl⟩ := List.mem_map.mp inside
    exact ⟨raw, standsAlone_of_scan 0 source.toList raw found, rfl⟩
  · exact ⟨impliedProduct, standsAlone_impliedProduct, rfl⟩

end Token

/-- Results that agree up to places have the same outline, or the same kind of problem. -/
theorem outline_of_placeless_eq {first second : Except ParseProblem (Option Tree)}
    (same : Parsed.placeless (Option.map Tree.placeless) first =
      Parsed.placeless (Option.map Tree.placeless) second) :
    (first.map (Option.map Tree.outline)).mapError (·.report.kind) =
      (second.map (Option.map Tree.outline)).mapError (·.report.kind) := by
  have bare : ∀ result : Except ParseProblem (Option Tree),
      ((Parsed.placeless (Option.map Tree.placeless) result).map
          (Option.map Tree.outline)).mapError (·.report.kind) =
        (result.map (Option.map Tree.outline)).mapError (·.report.kind) := by
    rintro (problem | _ | tree)
    · exact congrArg Except.error problem.kind_placeless
    · rfl
    · exact congrArg (fun outline => Except.ok (some outline)) tree.outline_placeless
  rw [← bare first, same, bare second]

/-- **Implied products.** In a group whose tokens all have a place in the text, spelling
products out can be undone; afterwards no value ends where another one starts, on any level;
whatever was put in is a product that stands between two such ends; and doing it again
changes nothing. In a text whose brackets nest, the products may be written between the
tokens: the text with them is read to the same outline, or refused for a problem of the same
kind. -/
theorem parse_spelled_products :
    (∀ group : Group, (∀ level ∈ group.levels, ∀ item ∈ level, item.isImplied = false) →
      group.insertProducts.deleteImplied = group ∧
      (∀ level ∈ group.insertProducts.levels, ∀ left right : Item, [left, right] <:+: level →
        ¬ (left.endsValue = true ∧ right.startsValue = true)) ∧
      (∀ level ∈ group.insertProducts.levels, ∀ (front : List Item) (token : Token)
        (behind : List Item), level = front ++ .single token :: behind →
          token.isSynthetic = true → Item.single token = Item.impliedProduct ∧
            (∃ left ∈ front.getLast?, left.endsValue = true) ∧
            ∃ right ∈ behind.head?, right.startsValue = true) ∧
      group.insertProducts.insertProducts = group.insertProducts) ∧
    ∀ (config : Config) (source : String) (tokens : List Token) (group : Group),
      Token.ofSource config source = .ok tokens → Group.ofTokens config tokens = .ok group →
      let spelled := Token.spellProducts tokens
      let text := " ".intercalate (spelled.map Token.lexeme)
      Item.Spells config group.insertProducts.items spelled ∧
        spelled.filter (fun token => !token.isSynthetic) = tokens ∧
        ((parse config text).map (Option.map Tree.outline)).mapError (·.report.kind) =
          ((parse config source).map (Option.map Tree.outline)).mapError (·.report.kind) := by
  refine ⟨fun group placed => ⟨Group.deleteImplied_insertProducts placed, ?_, ?_, ?_⟩, ?_⟩
  · exact fun level inside left right near => group.apart_insertProducts inside near
  · intro level inside front token behind split synthetic
    rw [Group.levels_insertProducts] at inside
    obtain ⟨items, member, rfl⟩ := List.mem_map.mp inside
    exact Item.exists_factors (placed items member) split synthetic
  · exact Group.insertProducts_insertProducts group
  · intro config source tokens group read nested spelled text
    refine ⟨(Group.spells_of_ofTokens nested).insertProducts,
      Token.filter_spellProducts (Token.position_nonneg_of_ofSource read), ?_⟩
    obtain ⟨placed, again, same⟩ :=
      Token.exists_ofSource_intercalate (Token.exists_raw_of_mem_spellProducts read)
    have written : parse config text = Tree.ofTokens config placed := by
      rw [parse, again]
      rfl
    have implied : parse config source = Tree.ofTokens config spelled := by
      rw [Tree.ofTokens_spellProducts, parse, read]
      rfl
    refine outline_of_placeless_eq ?_
    rw [written, implied, ← Tree.ofTokens_placeless, ← Tree.ofTokens_placeless, same]

/-- In `2(3 4)` a product is implied at each of two levels; spelled out it is
`2 * ( 3 * 4 )`. -/
theorem parse_spelled_products_two_levels :
    let config : Config := .standard
    let number (n : Int) (position : Int) : Token :=
      ⟨.number, toString n, some (.number (.int n)), position, none, false⟩
    let tokens : List Token := [number 2 0, ⟨.bracket, "(", none, 1, none, false⟩, number 3 2,
      number 4 4, ⟨.bracket, ")", none, 5, none, false⟩]
    let group : Group := ⟨[.single (number 2 0),
      .group (some "(") 1 [.single (number 3 2), .single (number 4 4)]], none, -1⟩
    (∀ level ∈ group.levels, ∀ item ∈ level, item.isImplied = false) ∧
      group.insertProducts.deleteImplied = group ∧
      Token.ofSource config "2(3 4)" = .ok tokens ∧ Group.ofTokens config tokens = .ok group ∧
      ((parse config "2 * ( 3 * 4 )").map (Option.map Tree.outline)).mapError (·.report.kind) =
        ((parse config "2(3 4)").map (Option.map Tree.outline)).mapError (·.report.kind) := by
  intro config number tokens group
  have placed : ∀ level ∈ group.levels, ∀ item ∈ level, item.isImplied = false := by decide
  have read : Token.ofSource config "2(3 4)" = .ok tokens := by cbv
  have nested : Group.ofTokens config tokens = .ok group := by cbv
  have written : " ".intercalate ((Token.spellProducts tokens).map Token.lexeme) =
      "2 * ( 3 * 4 )" := by cbv
  have same := (parse_spelled_products.2 config "2(3 4)" tokens group read nested).2.2
  rw [written] at same
  exact ⟨placed, (parse_spelled_products.1 group placed).1, read, nested, same⟩

end Calculator
