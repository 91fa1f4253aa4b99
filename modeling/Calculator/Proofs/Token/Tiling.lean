import Calculator.Proofs.Token.Longest

/-!
# Tokens and the text between them

Looking for a token skips the longest run of white space and takes the longest lexeme
behind it (`Scan.Munches`, `Token.next_eq_iff`). The tokens of a text and the white space
between them make up the text, each token at its place (`Token.Tiled`). Where a text
cannot be cut into tokens, the tokens in front of the character that starts none are those
of the text that ends there (`Token.exists_scan_take`). Both are in
`Token.munch_and_tile`.
-/

namespace Calculator

def Text.Blank (text : List Char) : Prop := ∀ c ∈ text, isBlank c = true

/-- What is found first in a text that starts at a position: nothing but white space, the
longest lexeme behind the white space, or a character that starts no lexeme. -/
inductive Scan.Munches (position : Nat) (text : List Char) : Scan → Prop
  | finished (blank : Text.Blank text) : Munches position text .finished
  | found {blanks rest : List Char} {lexeme : Lexeme}
      (split : text = blanks ++ (lexeme.chars ++ rest)) (blank : Text.Blank blanks)
      (visible : ∀ c ∈ lexeme.chars.head?, Text.isBlank c = false)
      (longest : lexeme.Longest (lexeme.chars ++ rest)) :
      Munches position text (.found (Token.ofLexeme (position + blanks.length) lexeme)
        (position + blanks.length + lexeme.chars.length) rest)
  | stuck {blanks rest : List Char} {c : Char} (split : text = blanks ++ c :: rest)
      (blank : Text.Blank blanks) (visible : Text.isBlank c = false)
      (formless : ∀ lexeme : Lexeme, ¬ lexeme.Fronts (c :: rest)) :
      Munches position text (.stuck ⟨c, position + blanks.length⟩)

namespace Lexeme

variable {lexeme : Lexeme} {text part : List Char}

/-- The longest lexeme of a text is the longest one of every part that it fits in. -/
theorem Longest.of_front (longest : lexeme.Longest text) (front : lexeme.chars <+: part)
    (inside : part <+: text) : lexeme.Longest part where
  fronts := ⟨longest.fronts.1, front⟩
  longest other fronts := longest.longest other ⟨fronts.1, fronts.2.trans inside⟩
  operates other fronts := longest.operates other ⟨fronts.1, fronts.2.trans inside⟩

end Lexeme

namespace Token

variable {position stop : Nat} {text rest : List Char} {token : Token} {tokens : List Token}

theorem next_of_munches {scan : Scan} (munches : scan.Munches position text) :
    next position text = scan := by
  cases munches with
  | finished blank =>
      have none : text.dropWhile Text.isBlank = [] := List.dropWhile_eq_nil_iff.mpr blank
      simp only [next, none]
  | @found blanks rest lexeme split blank visible longest =>
      obtain ⟨first, others, chars, -⟩ := longest.fronts.1.head
      have stop : ∀ c ∈ (lexeme.chars ++ rest).head?, Text.isBlank c = false := by
        rw [chars] at visible ⊢
        exact visible
      have read := Lexeme.read?_eq_some_iff.mpr longest
      rw [chars] at read stop
      simp only [split, next, chars, takeWhile_append_stop blank stop,
        dropWhile_append_stop blank stop]
      simp only [List.cons_append] at read
      simp [read, chars, ofLexeme]
  | @stuck blanks rest c split blank visible formless =>
      have stop : ∀ d ∈ (c :: rest).head?, Text.isBlank d = false := by
        rintro d ⟨⟩
        exact visible
      simp only [split, next, takeWhile_append_stop blank stop, dropWhile_append_stop blank stop,
        Lexeme.read?_eq_none_iff.mpr formless]

theorem exists_munches (position : Nat) (text : List Char) :
    ∃ scan : Scan, scan.Munches position text := by
  have split := List.takeWhile_append_dropWhile (p := Text.isBlank) (l := text)
  have blank : Text.Blank (text.takeWhile Text.isBlank) := fun c => List.mem_takeWhile_imp
  cases shown : text.dropWhile Text.isBlank with
  | nil => exact ⟨.finished, .finished (List.dropWhile_eq_nil_iff.mp shown)⟩
  | cons c rest =>
      have visible : Text.isBlank c = false := by
        have stops := List.head?_dropWhile_not Text.isBlank text
        simpa [shown] using stops
      rw [shown] at split
      cases read : Lexeme.read? (c :: rest) with
      | none => exact ⟨_, .stuck split.symm blank visible (Lexeme.read?_eq_none_iff.mp read)⟩
      | some lexeme =>
          have longest := Lexeme.read?_eq_some_iff.mp read
          obtain ⟨tail, behind⟩ := longest.fronts.2
          rw [← behind] at split longest
          refine ⟨_, .found split.symm blank ?_ longest⟩
          obtain ⟨first, others, chars, -⟩ := longest.fronts.1.head
          rw [chars] at behind ⊢
          rintro d ⟨⟩
          rw [(List.cons.inj behind).1]
          exact visible

/-- What is found is the longest lexeme behind the white space, if there is any. -/
theorem next_eq_iff {scan : Scan} : next position text = scan ↔ scan.Munches position text := by
  refine ⟨?_, next_of_munches⟩
  rintro rfl
  obtain ⟨scan, munches⟩ := exists_munches position text
  rwa [next_of_munches munches]

/-- Tokens that make up a text together with white space in front of each and behind the
last, in a text that starts at a position. -/
inductive Tiled : Nat → List Char → List Token → Prop
  | last {position : Nat} {gap : List Char} (blank : Text.Blank gap) : Tiled position gap []
  | token {position : Nat} {gap rest : List Char} {token : Token} {tokens : List Token}
      (blank : Text.Blank gap) (placed : token.position = (position + gap.length : Nat))
      (nonempty : token.lexeme.toList ≠ [])
      (tiled : Tiled (position + gap.length + token.lexeme.toList.length) rest tokens) :
      Tiled position (gap ++ (token.lexeme.toList ++ rest)) (token :: tokens)

theorem tiled_of_scan (complete : scan position text = (tokens, none)) :
    Tiled position text tokens := by
  fun_induction scan position text generalizing tokens with
  | case1 position text finished =>
      cases complete
      cases next_eq_iff.mp finished with
      | finished blank => exact .last blank
  | case2 position text error stuck => cases complete
  | case3 position text token stop rest found shorter others error again ih =>
      cases complete
      cases next_eq_iff.mp found with
      | @found blanks rest lexeme split blank visible longest =>
          obtain ⟨first, tail, chars, -⟩ := longest.fronts.1.head
          have lexemes : (ofLexeme (position + blanks.length) lexeme).lexeme.toList =
              lexeme.chars := String.toList_ofList
          have tiled := @Tiled.token _ _ _ (ofLexeme (position + blanks.length) lexeme) _ blank rfl
            (by rw [lexemes, chars]; exact List.cons_ne_nil _ _) (lexemes ▸ ih again)
          rwa [lexemes, ← split] at tiled

/-- Each token is the text at its place, which is not in front of the text. -/
theorem Tiled.exists_start (tiled : Tiled position text tokens) :
    ∀ token ∈ tokens, ∃ start : Nat, token.position = (position + start : Nat) ∧
      token.lexeme.toList <+: text.drop start := by
  induction tiled with
  | last => simp
  | @token position gap rest token tokens blank placed nonempty tiled ih =>
      intro other member
      rcases List.mem_cons.mp member with rfl | later
      · refine ⟨gap.length, placed, ?_⟩
        rw [List.drop_left]
        exact List.prefix_append _ _
      · obtain ⟨start, placed, front⟩ := ih other later
        refine ⟨gap.length + (token.lexeme.toList.length + start), ?_, ?_⟩
        · rw [placed]
          congr 1
          omega
        · rwa [List.drop_length_add_append, List.drop_length_add_append]

/-- The places of the tokens go up. -/
theorem Tiled.pairwise_lt (tiled : Tiled position text tokens) :
    (tokens.map Token.position).Pairwise (· < ·) := by
  induction tiled with
  | last => exact .nil
  | @token position gap rest token tokens blank placed nonempty tiled ih =>
      refine List.pairwise_cons.mpr ⟨fun later member => ?_, ih⟩
      obtain ⟨other, inside, rfl⟩ := List.mem_map.mp member
      obtain ⟨start, behind, -⟩ := tiled.exists_start other inside
      have long := List.length_pos_iff.mpr nonempty
      rw [placed, behind]
      exact Int.ofNat_lt.mpr (by omega)

/-- The gaps and the tokens, one after the other, are the text. -/
theorem Tiled.exists_gaps (tiled : Tiled position text tokens) :
    ∃ (gaps : List (List Char)) (last : List Char), gaps.length = tokens.length ∧
      (∀ gap ∈ last :: gaps, Text.Blank gap) ∧
      text = (List.zipWith (fun gap token => gap ++ token.lexeme.toList) gaps tokens).flatten ++
        last := by
  induction tiled with
  | last blank => exact ⟨[], _, rfl, by simpa using blank, rfl⟩
  | @token position gap rest token tokens blank placed nonempty tiled ih =>
      obtain ⟨gaps, last, length, blanks, rfl⟩ := ih
      refine ⟨gap :: gaps, last, congrArg (· + 1) length, fun other member => ?_, ?_⟩
      · simp only [List.mem_cons] at member blanks
        rcases member with same | same | member
        · exact blanks other (.inl same)
        · exact same ▸ blank
        · exact blanks other (.inr member)
      · simp

/-- A token is found just the same in a text that ends somewhere behind it. -/
theorem next_take (found : next position text = .found token stop rest) (count : Nat) :
    ∃ length, stop = position + length ∧
      next position (text.take (length + count)) = .found token stop (rest.take count) := by
  cases next_eq_iff.mp found with
  | @found blanks rest lexeme split blank visible longest =>
      refine ⟨blanks.length + lexeme.chars.length, Nat.add_assoc _ _ _, next_of_munches ?_⟩
      refine .found ?_ blank visible (longest.of_front (List.prefix_append _ _) ?_)
      · rw [split, Nat.add_assoc, List.take_length_add_append, List.take_length_add_append]
      · exact (List.prefix_append_right_inj _).mpr (List.take_prefix count rest)

/-- The tokens in front of a character that starts none are those of the text that ends
there. -/
theorem exists_scan_take {error : Unrecognized}
    (stuck : scan position text = (tokens, some error)) :
    ∃ count, error.position = position + count ∧
      scan position (text.take count) = (tokens, none) := by
  fun_induction scan position text generalizing tokens with
  | case1 position text finished => cases stuck
  | case2 position text error here =>
      cases stuck
      cases next_eq_iff.mp here with
      | @stuck blanks rest c split blank visible formless =>
          refine ⟨blanks.length, rfl, scan_of_finished (next_of_munches ?_)⟩
          rw [split, List.take_left]
          exact .finished blank
  | case3 position text token stop rest found shorter others other again ih =>
      cases stuck
      obtain ⟨count, placed, scanned⟩ := ih again
      obtain ⟨length, rfl, found⟩ := next_take found count
      refine ⟨length + count, by omega, ?_⟩
      rw [scan_of_found found, scanned]

/-- **Longest lexemes, and nothing lost.** At every place of a text the longest lexeme
behind the white space is found. The tokens of a text stand where they say, one behind the
other, and make up the text together with the white space between them. Where a text has a
character that starts no lexeme, the tokens in front of it are those of the text that ends
there. -/
theorem munch_and_tile (source : String) :
    (∀ cursor scan, next cursor (source.toList.drop cursor) = scan ↔
      scan.Munches cursor (source.toList.drop cursor)) ∧
    (∀ tokens, ofText source = .ok tokens →
      (∀ token ∈ tokens, ∃ start : Nat, token.position = start ∧
        token.lexeme.toList <+: source.toList.drop start) ∧
      (tokens.map Token.position).Pairwise (· < ·) ∧
      ∃ (gaps : List (List Char)) (last : List Char), gaps.length = tokens.length ∧
        (∀ gap ∈ last :: gaps, Text.Blank gap) ∧
        source.toList =
          (List.zipWith (fun gap token => gap ++ token.lexeme.toList) gaps tokens).flatten ++
            last) ∧
    (∀ error, ofText source = .error error →
      ∃ tokens, scan 0 source.toList = (tokens, some error) ∧
        ofText (String.ofList (source.toList.take error.position)) = .ok tokens) := by
  refine ⟨fun cursor scan => next_eq_iff, fun tokens read => ?_, fun error stuck => ?_⟩
  · have complete : scan 0 source.toList = (tokens, none) := by
      unfold ofText at read
      split at read
      · rename_i scanned
        rw [scanned, Except.ok.inj read]
      · cases read
    have tiled := tiled_of_scan complete
    refine ⟨fun token member => ?_, tiled.pairwise_lt, tiled.exists_gaps⟩
    obtain ⟨start, placed, front⟩ := tiled.exists_start token member
    exact ⟨start, by rw [placed, Nat.zero_add], front⟩
  · unfold ofText at stuck
    split at stuck
    · cases stuck
    · rename_i tokens other scanned
      obtain rfl := Except.error.inj stuck
      obtain ⟨count, placed, taken⟩ := exists_scan_take scanned
      rw [Nat.zero_add] at placed
      refine ⟨tokens, scanned, ?_⟩
      rw [ofText, String.toList_ofList, placed, taken]

/-- Hexadecimal digits go on through `e5`; in `0b12degé` a number ends where its digits do,
and `deg` is an operator although a letter follows. -/
theorem munch_and_tile_digits_and_deg :
    let tokens : List Token := [⟨.number, "0x1e5", some (.number (.int 485)), 1, none, false⟩,
      ⟨.identifier, "degree", none, 7, none, false⟩]
    let error : Unrecognized := ⟨'é', 7⟩
    ofText " 0x1e5 degree" = .ok tokens ∧ (tokens.map Token.position).Pairwise (· < ·) ∧
      ofText "0b12degé" = .error error ∧
      ∃ before, scan 0 "0b12degé".toList = (before, some error) ∧
        ofText (String.ofList ("0b12degé".toList.take error.position)) = .ok before ∧
        before.map Token.lexeme = ["0b1", "2", "deg"] := by
  intro tokens error
  have read : ofText " 0x1e5 degree" = .ok tokens := by cbv
  have stuck : ofText "0b12degé" = .error error := by cbv
  obtain ⟨before, scanned, taken⟩ := (munch_and_tile "0b12degé").2.2 error stuck
  have lexemes : (scan 0 "0b12degé".toList).1.map Token.lexeme = ["0b1", "2", "deg"] := by cbv
  rw [scanned] at lexemes
  have ascending := ((munch_and_tile " 0x1e5 degree").2.1 tokens read).2.1
  exact ⟨read, ascending, stuck, before, scanned, taken, lexemes⟩

end Token

end Calculator
