import Calculator.Binary64.Arithmetic

/-!
# Summation of binary64 numbers

Long rows of numbers are summed in parts, which loses less to rounding than one
running sum. A row with fewer numbers than there are lanes is summed from left
to right; one of up to sixteen numbers a lane is summed along the lanes; a longer
one is halved. Numbers that have to be converted first come in blocks, and the
sums of the blocks are added from left to right.
-/

namespace Calculator

namespace Binary64

def runningSum (numbers : List Binary64) : Binary64 := numbers.foldl (· + ·) (zero false)

/-- The sum of the numbers of one lane: every number in as many steps as there
are lanes, from the given place on and up to the last full group. -/
def laneSum (lanes : Nat) (numbers : Array Binary64) (lane : Nat) : Binary64 :=
  let entry (group : Nat) : Binary64 := numbers.getD (lanes * group + lane) (zero false)
  (List.range (numbers.size / lanes - 1)).foldl (fun total group => total + entry (group + 1))
    (entry 0)

def sumNeighbours : List Binary64 → List Binary64
  | x :: y :: rest => (x + y) :: sumNeighbours rest
  | rest => rest

/-- The sum of the lane sums: neighbours are added until one number is left, which
takes three rounds for eight lanes. -/
def joinLanes (sums : List Binary64) : Binary64 :=
  (sumNeighbours (sumNeighbours (sumNeighbours sums))).headD (zero false)

/-- The sum along lanes, to which the numbers behind the last full group are added
one by one. -/
def lanesSum (lanes : Nat) (numbers : List Binary64) : Binary64 :=
  let total := joinLanes ((List.range lanes).map (laneSum lanes numbers.toArray))
  (numbers.drop (numbers.length / lanes * lanes)).foldl (· + ·) total

/-- The numbers of lanes in use: eight, or four for the parts of complex numbers,
of which each takes up two. -/
inductive Lanes
  | four
  | eight
deriving DecidableEq

def Lanes.count : Lanes → Nat
  | four => 4
  | eight => 8

/-- The sum of a row. A long row is cut in the middle, at a full group. -/
def pairwiseSum (lanes : Lanes) (numbers : List Binary64) : Binary64 :=
  if numbers.length < lanes.count then runningSum numbers
  else if numbers.length ≤ 16 * lanes.count then lanesSum lanes.count numbers
  else
    let half := numbers.length / (2 * lanes.count) * lanes.count
    pairwiseSum lanes (numbers.take half) + pairwiseSum lanes (numbers.drop half)
termination_by numbers.length
decreasing_by
  · cases lanes <;> simp only [List.length_take, Lanes.count] at * <;> omega
  · cases lanes <;> simp only [List.length_drop, Lanes.count] at * <;> omega

/-- The sum of numbers. It is never a negative zero. -/
def sum (numbers : List Binary64) : Binary64 := zero false + pairwiseSum .eight numbers

/-- The total with the sums of the blocks of 8192 numbers added to it one by
one. -/
def addBlocks (total : Binary64) : List Binary64 → Binary64
  | [] => total
  | x :: rest =>
    addBlocks (total + pairwiseSum .eight (x :: rest.take 8191)) (rest.drop 8191)
termination_by numbers => numbers.length
decreasing_by simp only [List.length_drop, List.length_cons]; omega

/-- The sum of numbers that are converted from words, which happens block by
block. -/
def blockwiseSum (numbers : List Binary64) : Binary64 := addBlocks (zero false) numbers

end Binary64

end Calculator
