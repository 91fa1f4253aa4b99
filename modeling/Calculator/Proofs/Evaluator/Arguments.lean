import Calculator.Evaluator.Integer
import Calculator.Proofs.Evaluator.Calls
import Calculator.Proofs.Parse.Call

/-!
# What a function receives

A function that is written before many arguments receives their values, all of them and in
their order, in one call after they have been computed from left to right. If an argument
has no value, its failure is that of the call, and the function is not called
(`Evaluator.evaluate_call`).
-/

namespace Calculator

theorem le_of_mem_placesOf {start position : Nat} {sources : List String}
    (member : position ∈ placesOf start sources) : start ≤ position := by
  induction sources generalizing start with
  | nil => cases member
  | cons source rest ih =>
      rcases List.mem_cons.mp member with rfl | later
      · exact Nat.le_refl _
      · have behind := ih later
        omega

theorem length_placesOf (start : Nat) (sources : List String) :
    (placesOf start sources).length = sources.length := by
  induction sources generalizing start with
  | nil => rfl
  | cons source rest ih => exact congrArg Nat.succ (ih _)

namespace Evaluator

variable {V ε : Type} [ValueLike V] [FaultLike ε] {config wide : Config}
  {evaluator : Evaluator V ε}

/-- **Calls with many arguments.** Texts that are read on their own, and that no comma
splits outside of brackets, are read as the arguments of a function if three more levels are
allowed. Computing the call computes the arguments one after the other. If they all have a
value, and none of these is a list of arguments, the function is called once, with these
values in their order. Otherwise the first argument without a value fails as it does on its
own, but further to the right, and the function is not called. -/
theorem evaluate_call {name : String} {operation : Operation V ε} {sources : List String}
    {trees : List Tree} (constants : wide.constants = config.constants)
    (strict : wide.strictBrackets = config.strictBrackets)
    (roomy : config.maxDepth + 3 ≤ wide.maxDepth) (named : isName name = true)
    (free : config.isConstant name = false) (nonempty : sources ≠ [])
    (read : List.Forall₂ (fun source tree => parse config source = .ok (some tree)) sources trees)
    (flat : ∀ source ∈ sources, ',' ∉ Text.outside 0 source.toList)
    (separates : evaluator.operations.lookup "," = some Operation.comma)
    (known : evaluator.operation? name = some operation) :
    let function := Token.function name
    let placed := (placesOf (name.length + 1) sources).zip trees
    ∃ tree, parse wide (name ++ "(" ++ ",".intercalate sources ++ ")") = .ok (some tree) ∧
      (∀ values, List.Forall₂ (fun tree value => evaluator.evaluate tree = .ok value) trees values →
        (∀ value ∈ values, ¬ ValueLike.IsArguments value) →
        evaluator.evaluate tree = (operation values).mapError (blame function) ∧
          Event.others (evaluator.observe tree).1 =
            Event.others (evaluator.eventsAt placed) ++ [.call function values] ∧
          (evaluator.observe tree).1.filter (Event.isCallOf function) =
            [.call function values]) ∧
      (∀ before offset failing after failure, placed = before ++ (offset, failing) :: after →
        (∀ place ∈ before, ∃ value, evaluator.evaluate place.2 = .ok value) →
        evaluator.evaluate failing = .error failure →
        evaluator.evaluate tree = .error (failure.moved offset) ∧
          Event.others (evaluator.observe tree).1 =
            Event.others (evaluator.eventsAt (before ++ [(offset, failing)])) ∧
          (evaluator.observe tree).1.filter (Event.isCallOf function) = []) := by
  intro function placed
  obtain ⟨arguments, rfl, rfl⟩ := exists_arguments read flat
  rcases arguments with _ | ⟨first, rest⟩
  · exact absurd rfl nonempty
  obtain ⟨operand, steps, tree, commas, operands⟩ := Argument.exists_tree_call name first rest
  have noComma : function.lexeme ≠ "," := by
    rintro rfl
    exact absurd named (by decide)
  have positive : ∀ place ∈ placed, 0 < place.1 := fun place member =>
    Nat.lt_of_lt_of_le (Nat.succ_pos _) (le_of_mem_placesOf (List.of_mem_zip member).1)
  refine ⟨_, Argument.parse_call constants strict roomy named free first rest, ?_, ?_⟩
  · intro values computed single
    have inPlace : placed.map Prod.snd = (first :: rest).map fun argument =>
        argument.expression.tree := by
      refine List.map_snd_zip (Nat.le_of_eq ?_)
      simp [length_placesOf]
    rw [← inPlace] at computed
    rw [tree]
    exact evaluate_placed separates noComma rfl commas operands positive known single computed
  · intro before offset failing after failure split computed failed
    rw [tree]
    exact evaluate_placed_error separates noComma rfl commas operands positive split computed
      failed

/-- In `gcd(2(6),-18,3!*5)` the function receives 12, -18 and 30. In `gcd(8,3/0,7/0)` it is
not called, and the failure is that of the first division, which stands behind six
characters. -/
theorem evaluate_call_gcd :
    let config : Config := { maxDepth := 2 }
    let wide : Config := { maxDepth := 5 }
    let function := Token.function "gcd"
    let slash (position : Nat) : Token := ⟨.operator, "/", none, position, some .infixed, false⟩
    (wide.constants = config.constants ∧ wide.strictBrackets = config.strictBrackets ∧
      config.maxDepth + 3 ≤ wide.maxDepth ∧ isName "gcd" = true ∧
      config.isConstant "gcd" = false ∧
      (∀ source ∈ ["2(6)", "-18", "3!*5", "8", "3/0", "7/0"],
        ',' ∉ Text.outside 0 source.toList) ∧
      integer.operations.lookup "," = some Operation.comma ∧
      integer.operation? "gcd" = some IntegerOperation.gcd) ∧
    (∃ tree, parse wide "gcd(2(6),-18,3!*5)" = .ok (some tree) ∧
      integer.evaluate tree = .ok (.int 6) ∧
      (integer.observe tree).1.filter (Event.isCallOf function) =
        [.call function [.int 12, .int (-18), .int 30]]) ∧
    ∃ tree, parse wide "gcd(8,3/0,7/0)" = .ok (some tree) ∧
      integer.evaluate tree = .error (.problem (.divisionByZero (slash 7))) ∧
      (integer.observe tree).1.filter (Event.isCallOf function) = [] := by
  intro config wide function slash
  have constants : wide.constants = config.constants := rfl
  have strict : wide.strictBrackets = config.strictBrackets := rfl
  have roomy : config.maxDepth + 3 ≤ wide.maxDepth := by decide
  have named : isName "gcd" = true := by decide
  have free : config.isConstant "gcd" = false := by decide
  have flat : ∀ source ∈ ["2(6)", "-18", "3!*5", "8", "3/0", "7/0"],
      ',' ∉ Text.outside 0 source.toList := by decide
  have separates : integer.operations.lookup "," = some Operation.comma := by rfl
  have known : integer.operation? "gcd" = some IntegerOperation.gcd := by rfl
  have reads : ∀ (source : String) (outcome : Except Failure Value),
      (parse config source).map (Option.map integer.evaluate) = .ok (some outcome) →
      ∃ tree, parse config source = .ok (some tree) ∧ integer.evaluate tree = outcome := by
    intro source outcome done
    obtain ⟨found, read, same⟩ := exists_of_map done
    obtain ⟨tree, rfl, result⟩ := Option.map_eq_some_iff.mp same
    exact ⟨tree, read, result⟩
  refine ⟨⟨constants, strict, roomy, named, free, flat, separates, known⟩, ?_, ?_⟩
  · obtain ⟨first, firstRead, firstValue⟩ := reads "2(6)" (.ok (.int 12)) (by cbv)
    obtain ⟨second, secondRead, secondValue⟩ := reads "-18" (.ok (.int (-18))) (by cbv)
    obtain ⟨third, thirdRead, thirdValue⟩ := reads "3!*5" (.ok (.int 30)) (by cbv)
    obtain ⟨tree, read, called, -⟩ := evaluate_call constants strict roomy named free
      (List.cons_ne_nil "2(6)" ["-18", "3!*5"])
      (.cons firstRead (.cons secondRead (.cons thirdRead .nil)))
      (fun source member => flat source (List.mem_append_left ["8", "3/0", "7/0"] member))
      separates known
    obtain ⟨result, -, once⟩ := called _
      (.cons firstValue (.cons secondValue (.cons thirdValue .nil))) (by decide)
    exact ⟨tree, read, result, once⟩
  · obtain ⟨first, firstRead, firstValue⟩ := reads "8" (.ok (.int 8)) (by cbv)
    obtain ⟨second, secondRead, secondFails⟩ := reads "3/0"
      (.error (.problem (.divisionByZero (slash 1)))) (by cbv)
    obtain ⟨third, thirdRead, -⟩ := reads "7/0"
      (.error (.problem (.divisionByZero (slash 1)))) (by cbv)
    obtain ⟨tree, read, -, failed⟩ := evaluate_call constants strict roomy named free
      (List.cons_ne_nil "8" ["3/0", "7/0"])
      (.cons firstRead (.cons secondRead (.cons thirdRead .nil)))
      (fun source member => flat source (List.mem_append_right ["2(6)", "-18", "3!*5"] member))
      separates known
    obtain ⟨result, -, never⟩ := failed [(4, first)] 6 second [(10, third)] _ rfl
      (by simp [firstValue]) secondFails
    exact ⟨tree, read, result, never⟩

end Evaluator

end Calculator
