import Mathlib.Data.Nat.Digits.Lemmas
import Stheno.Fault
import Stheno.Wire.Decimal
import Stheno.Wire.Sizes

/-!
# The CPUs of a cgroup

`cpuset.cpus` holds a list of CPUs as the kernel writes it: numbers and ranges with commas
between them.  `parseCPUSETCPU` has one branch for a single item and another for lists,
which keeps its positions in `int`s.
-/

namespace Stheno.QoS

open Decimal Sizes

/-! ## The parser -/

/-- `find` of a character from a position on; -1 stands for `npos`. -/
def find (text : List UInt8) (c : UInt8) (pos : Int) : Int :=
  match (text.drop (size pos)).findIdx? fun d => d = c with
  | some i => int (size pos + i)
  | none => -1

def substr (text : List UInt8) (offset length : Int) : List UInt8 :=
  (text.drop (size offset)).take (size length)

def COMMA : UInt8 := 44
def HYPHEN : UInt8 := 45

namespace CPUCgroup

/-- A loop that appends the counter to the list and adds 1 to it. -/
def pushWhile (goesOn : UInt32 → Bool) : Nat → UInt32 → List UInt32 → Result (List UInt32)
  | 0, _, _ => .error .outOfFuel
  | fuel + 1, i, cpus =>
      if goesOn i then pushWhile goesOn fuel (i + 1) (cpus ++ [i]) else .ok cpus

/-- The branch for a text without a comma. -/
def parseSingle (fuel : Nat) (data : List UInt8) (cpus : List UInt32) : Result (List UInt32) :=
  let tempPos := find data HYPHEN 0
  if tempPos = -1 then
    .ok (cpus ++ [readUInt data])
  else
    let lowCpuStr := substr data 0 tempPos
    let highCpuStr := substr data (tempPos + 1) (data.length - tempPos)
    let lowCpu := readUInt lowCpuStr
    let highCpu := readUInt highCpuStr
    pushWhile (fun i => i ≤ highCpu) fuel lowCpu cpus

/-- The part of a list that the loop has cut out. -/
def parseTemp (fuel : Nat) (temp : List UInt8) (cpus : List UInt32) : Result (List UInt32) :=
  let tempPos := find temp HYPHEN 0
  if tempPos = -1 then
    .ok (cpus ++ [readUInt temp])
  else
    let lowCpuStr := substr temp 0 (tempPos - 1)
    let highCpuStr := substr temp tempPos (temp.length - tempPos)
    let lowCpu := readUInt lowCpuStr
    let highCpu := readUInt highCpuStr
    pushWhile (fun i => i < highCpu) fuel lowCpu cpus

/-- The search for the next comma starts at the one that was found. -/
def parseLoop (data : List UInt8) : Nat → Int → Int → List UInt32 → Result (List UInt32)
  | 0, _, _, _ => .error .outOfFuel
  | fuel + 1, pos, delPos, cpus =>
      if delPos = -1 then
        .ok cpus
      else do
        let temp := substr data pos (delPos - pos - 1)
        let cpus ← parseTemp fuel temp cpus
        parseLoop data fuel delPos (find data COMMA delPos) cpus

def parseCPUSETCPU (fuel : Nat) (data : List UInt8) (cpus : List UInt32) : Result (List UInt32) :=
  if find data COMMA 0 = -1 then
    parseSingle fuel data cpus
  else
    parseLoop data fuel 0 (find data COMMA 0) cpus

/-- The rounds of the loop, and the number behind it. -/
def convertLoop : Nat → List UInt32 → Result (List UInt8)
  | _, [] => .error .outOfBounds
  | 0, cpu :: _ => .ok (write cpu.toNat)
  | rounds + 1, cpu :: rest => do
      let later ← convertLoop rounds rest
      pure (write cpu.toNat ++ COMMA :: later)

def convertLisToStringCPU (cpus : List UInt32) : Result (List UInt8) :=
  convertLoop (int cpus.length - 1).toNat cpus

end CPUCgroup

/-! ## The list format -/

/-- A number in decimal digits, leading zeros included. -/
structure Numeral where
  digits : List UInt8
  nonempty : digits ≠ []
  decimal : ∀ c ∈ digits, isDigit c = true

def Numeral.value (this : Numeral) : Nat :=
  Decimal.value this.digits

inductive CPUItem where
  | cpu (number : Numeral) (fits : number.value < 2 ^ 32)
  | range (low high : Numeral) (ordered : low.value ≤ high.value)
      (bounded : high.value < 2 ^ 32 - 1)

namespace CPUItem

def text : CPUItem → List UInt8
  | cpu number _ => number.digits
  | range low high _ _ => low.digits ++ HYPHEN :: high.digits

/-- The CPUs that an item lists. -/
def cpus : CPUItem → List UInt32
  | cpu number _ => [UInt32.ofNat number.value]
  | range low high _ _ =>
      (List.range' low.value (high.value - low.value + 1)).map UInt32.ofNat

end CPUItem

/-- A text of the list format, whose positions an `int` can hold. -/
structure CPUList where
  first : CPUItem
  rest : List CPUItem
  short : (first.text ++ rest.flatMap fun item => COMMA :: item.text).length < 2 ^ 31

namespace CPUList

def text (this : CPUList) : List UInt8 :=
  this.first.text ++ this.rest.flatMap fun item => COMMA :: item.text

def cpus (this : CPUList) : List UInt32 :=
  this.first.cpus ++ this.rest.flatMap CPUItem.cpus

/-- The parser ends and appends the CPUs of the items, one item after the other. -/
def Parsed (this : CPUList) : Prop :=
  ∀ cpus, ∃ fuel, CPUCgroup.parseCPUSETCPU fuel this.text cpus = .ok (cpus ++ this.cpus)

end CPUList

/-- The text that is written for a list of CPUs is parsed to that list. -/
def ComesBack (cpus : List UInt32) : Prop :=
  ∃ text, CPUCgroup.convertLisToStringCPU cpus = .ok text ∧
    ∃ fuel, CPUCgroup.parseCPUSETCPU fuel text [] = .ok cpus

/-! ## Searching -/

theorem find_eq_neg_one {text : List UInt8} {c : UInt8} (absent : c ∉ text) (pos : Int) :
    find text c pos = -1 := by
  have none : (text.drop (size pos)).findIdx? (fun d => d = c) = none := by
    rw [List.findIdx?_eq_none_iff]
    intro d member
    have held := List.mem_of_mem_drop member
    exact decide_eq_false fun same => absent (same ▸ held)
  rw [find, none]

/-- A character is found behind characters that differ from it, and again where it
stands. -/
theorem find_eq (front back : List UInt8) {c : UInt8} (absent : c ∉ front)
    (short : front.length < 2 ^ 31) :
    find (front ++ c :: back) c 0 = front.length ∧
      find (front ++ c :: back) c front.length = front.length := by
  have skipped : front.findIdx? (fun d => d = c) = none := by
    rw [List.findIdx?_eq_none_iff]
    intro d member
    exact decide_eq_false fun same => absent (same ▸ member)
  constructor
  · rw [find, show size 0 = 0 from rfl, List.drop_zero, List.findIdx?_append, skipped,
      List.findIdx?_cons, if_pos (decide_eq_true rfl)]
    simp [int_of_lt short]
  · rw [find, size_natCast (by omega), List.drop_left, List.findIdx?_cons,
      if_pos (decide_eq_true rfl)]
    simp [int_of_lt short]

/-- The text in front of a character. -/
theorem substr_front {front back : List UInt8} {c : UInt8} (short : front.length < 2 ^ 64) :
    substr (front ++ c :: back) 0 front.length = front := by
  rw [substr, show size 0 = 0 from rfl, List.drop_zero, size_natCast short, List.take_left]

/-- The text behind a character; the length that is asked for counts the character. -/
theorem substr_back {front back : List UInt8} {c : UInt8}
    (short : (front ++ c :: back).length < 2 ^ 64) :
    substr (front ++ c :: back) (front.length + 1) ((front ++ c :: back).length - front.length) =
      back := by
  rw [List.length_append, List.length_cons] at short
  have offset : size ((front.length : Int) + 1) = front.length + 1 :=
    size_natCast (show front.length + 1 < 2 ^ 64 by omega)
  have rest : ((front ++ c :: back).length : Int) - front.length = (back.length + 1 : Nat) := by
    rw [List.length_append, List.length_cons]
    omega
  rw [substr, offset, rest, size_natCast (by omega), List.append_cons, List.drop_left' (by simp)]
  exact List.take_of_length_le (Nat.le_succ _)

theorem Numeral.not_mem (this : Numeral) {c : UInt8} (other : isDigit c = false) :
    c ∉ this.digits := by
  intro member
  rw [this.decimal c member] at other
  cases other

theorem CPUItem.comma_not_mem (item : CPUItem) : COMMA ∉ item.text := by
  cases item with
  | cpu number fits => exact Numeral.not_mem _ rfl
  | range low high ordered bounded =>
      rw [text, List.mem_append, List.mem_cons, not_or, not_or]
      exact ⟨Numeral.not_mem _ rfl, by decide, Numeral.not_mem _ rfl⟩

namespace CPUCgroup

/-! ## A single item -/

/-- The loop over a range whose end is not the largest number. -/
theorem pushWhile_range (highCpu : UInt32) (bounded : highCpu.toNat < 2 ^ 32 - 1) (count : Nat)
    {i : UInt32} (ends : i.toNat + count = highCpu.toNat + 1) (cpus : List UInt32) :
    pushWhile (fun i => i ≤ highCpu) (count + 1) i cpus =
      .ok (cpus ++ (List.range' i.toNat count).map UInt32.ofNat) := by
  induction count generalizing i cpus with
  | zero =>
      have past : ¬ i ≤ highCpu := by
        rw [UInt32.le_iff_toNat_le]
        omega
      rw [pushWhile, if_neg (by simpa using past)]
      simp
  | succ count inductionHypothesis =>
      have within : i ≤ highCpu := by
        rw [UInt32.le_iff_toNat_le]
        omega
      have next : (i + 1).toNat = i.toNat + 1 := by
        rw [UInt32.toNat_add, UInt32.toNat_one, Nat.mod_eq_of_lt]
        omega
      rw [pushWhile, if_pos (by simpa using within), inductionHypothesis (by omega), next,
        List.range'_succ, List.map_cons, UInt32.ofNat_toNat, List.append_assoc,
        List.singleton_append]

theorem parseSingle_cpu (number : Numeral) (fits : number.value < 2 ^ 32) (fuel : Nat)
    (cpus : List UInt32) :
    parseSingle fuel number.digits cpus = .ok (cpus ++ [UInt32.ofNat number.value]) := by
  have noHyphen : find number.digits HYPHEN 0 = -1 := find_eq_neg_one (Numeral.not_mem _ rfl) 0
  rw [parseSingle, if_pos noHyphen, readUInt_digits number.nonempty number.decimal fits]
  rfl

theorem parseSingle_range (low high : Numeral) (ordered : low.value ≤ high.value)
    (bounded : high.value < 2 ^ 32 - 1)
    (short : (low.digits ++ HYPHEN :: high.digits).length < 2 ^ 31) (cpus : List UInt32) :
    parseSingle (high.value - low.value + 2) (low.digits ++ HYPHEN :: high.digits) cpus =
      .ok (cpus ++ (List.range' low.value (high.value - low.value + 1)).map UInt32.ofNat) := by
  rw [List.length_append, List.length_cons] at short
  have hyphen : find (low.digits ++ HYPHEN :: high.digits) HYPHEN 0 = low.digits.length :=
    (find_eq _ _ (Numeral.not_mem _ rfl) (by omega)).1
  have lowCpuStr : substr (low.digits ++ HYPHEN :: high.digits) 0 low.digits.length = low.digits :=
    substr_front (by omega)
  have highCpuStr : substr (low.digits ++ HYPHEN :: high.digits) (low.digits.length + 1)
      ((low.digits ++ HYPHEN :: high.digits).length - low.digits.length) = high.digits := by
    apply substr_back
    rw [List.length_append, List.length_cons]
    omega
  have lowRead := readUInt_digits low.nonempty low.decimal
    (show Decimal.value low.digits < 2 ^ 32 from lt_of_le_of_lt ordered (by omega))
  have highRead := readUInt_digits high.nonempty high.decimal
    (show Decimal.value high.digits < 2 ^ 32 from lt_trans bounded (by omega))
  have lowNat : (UInt32.ofNat low.value).toNat = low.value :=
    UInt32.toNat_ofNat_of_lt' (lt_of_le_of_lt ordered (by change high.value < 2 ^ 32; omega))
  have highNat : (UInt32.ofNat high.value).toNat = high.value :=
    UInt32.toNat_ofNat_of_lt' (by change high.value < 2 ^ 32; omega)
  simp only [parseSingle, hyphen, lowCpuStr, highCpuStr, lowRead, highRead]
  rw [if_neg (by omega)]
  have pushed := pushWhile_range (UInt32.ofNat high.value) (by omega)
    (high.value - low.value + 1)
    (show (UInt32.ofNat low.value).toNat + _ = _ by omega) cpus
  rw [lowNat] at pushed
  exact pushed

theorem parse_single (item : CPUItem) (short : item.text.length < 2 ^ 31) (cpus : List UInt32) :
    ∃ fuel, parseCPUSETCPU fuel item.text cpus = .ok (cpus ++ item.cpus) := by
  have noComma := find_eq_neg_one item.comma_not_mem 0
  cases item with
  | cpu number fits =>
      refine ⟨0, ?_⟩
      rw [parseCPUSETCPU, if_pos noComma]
      exact parseSingle_cpu number fits 0 cpus
  | range low high ordered bounded =>
      refine ⟨high.value - low.value + 2, ?_⟩
      rw [parseCPUSETCPU, if_pos noComma]
      exact parseSingle_range low high ordered bounded short cpus

/-! ## Lists -/

/-- The loop finds one comma again and again. -/
theorem parseLoop_ne_ok {data : List UInt8} {delPos : Int} (found : delPos ≠ -1)
    (again : find data COMMA delPos = delPos) (fuel : Nat) (pos : Int) (cpus result : List UInt32) :
    parseLoop data fuel pos delPos cpus ≠ .ok result := by
  induction fuel generalizing pos cpus with
  | zero => exact fun impossible => by cases impossible
  | succ fuel inductionHypothesis =>
      intro done
      rw [parseLoop, if_neg found, again] at done
      rcases Result.bind_eq_ok.mp done with ⟨pushed, -, later⟩
      exact inductionHypothesis delPos pushed later

/-- No text with a comma is ever parsed to its end. -/
theorem parse_ne_ok {front back : List UInt8} (noComma : COMMA ∉ front)
    (short : front.length < 2 ^ 31) (fuel : Nat) (cpus result : List UInt32) :
    parseCPUSETCPU fuel (front ++ COMMA :: back) cpus ≠ .ok result := by
  rcases find_eq front back noComma short with ⟨found, again⟩
  have nonnegative : (front.length : Int) ≠ -1 := by omega
  rw [parseCPUSETCPU, found, if_neg nonnegative]
  exact parseLoop_ne_ok nonnegative again fuel 0 cpus result

end CPUCgroup

theorem CPUList.parsed_iff (this : CPUList) : this.Parsed ↔ this.rest = [] := by
  constructor
  · intro parsed
    cases rest : this.rest with
    | nil => rfl
    | cons item later =>
        have split : this.text = this.first.text ++
            COMMA :: (item.text ++ later.flatMap fun item => COMMA :: item.text) := by
          rw [text, rest]
          rfl
        have short := this.short
        rw [List.length_append] at short
        rcases parsed [] with ⟨fuel, done⟩
        rw [split] at done
        exact absurd done
          (CPUCgroup.parse_ne_ok this.first.comma_not_mem (by omega) fuel [] _)
  · intro single cpus
    have short := this.short
    rw [single, List.flatMap_nil, List.append_nil] at short
    rw [text, CPUList.cpus, single, List.flatMap_nil, List.append_nil, List.flatMap_nil,
      List.append_nil]
    exact CPUCgroup.parse_single this.first short cpus

/-! ## Writing -/

/-- The numeral that is written for a CPU. -/
def Numeral.written (cpu : UInt32) : Numeral :=
  ⟨write cpu.toNat, write_ne_nil _, fun _ => isDigit_of_mem_write⟩

theorem Numeral.value_written (cpu : UInt32) : (written cpu).value = cpu.toNat :=
  value_write cpu.toNat

theorem length_write_lt (cpu : UInt32) : (write cpu.toNat).length < 2 ^ 31 := by
  rw [write]
  split
  · decide
  · rw [List.length_map, List.length_reverse]
    have bound : (Nat.digits 10 cpu.toNat).length ≤ 10 := by
      rw [Nat.digits_length_le_iff (by decide)]
      have range := cpu.toNat_lt
      omega
    omega

/-- What the parser makes of the number of one CPU. -/
theorem parse_written (cpu : UInt32) (fuel : Nat) :
    CPUCgroup.parseCPUSETCPU fuel (write cpu.toNat) [] = .ok [cpu] := by
  have noComma : find (write cpu.toNat) COMMA 0 = -1 :=
    find_eq_neg_one (Numeral.not_mem (.written cpu) rfl) 0
  have fits : (Numeral.written cpu).value < 2 ^ 32 := by
    rw [Numeral.value_written]
    exact cpu.toNat_lt
  have pushed := CPUCgroup.parseSingle_cpu (.written cpu) fits fuel []
  rw [Numeral.value_written, UInt32.ofNat_toNat] at pushed
  rw [CPUCgroup.parseCPUSETCPU, if_pos noComma]
  exact pushed

theorem comesBack_list_iff (first : UInt32) (rest : List UInt32) :
    ComesBack (first :: rest) ↔ rest = [] := by
  constructor
  · rintro ⟨text, written, fuel, done⟩
    rw [CPUCgroup.convertLisToStringCPU] at written
    cases rounds : (int (first :: rest).length - 1).toNat with
    | zero =>
        -- A list too long for an `int` is cut off behind its first number.
        rw [rounds] at written
        cases written
        rw [parse_written] at done
        exact (List.cons.inj (Except.ok.inj done)).2.symm
    | succ count =>
        rw [rounds] at written
        rcases Result.bind_eq_ok.mp written with ⟨later, -, ⟨⟩⟩
        have noComma : COMMA ∉ write first.toNat := Numeral.not_mem (.written first) rfl
        exact absurd done (CPUCgroup.parse_ne_ok noComma (length_write_lt first) fuel [] _)
  · rintro rfl
    exact ⟨write first.toNat, rfl, 0, parse_written first 0⟩

/-- Texts of one item are parsed, and lists of one CPU come back; no others do. -/
theorem cpusetCodec_iff (list : CPUList) (first : UInt32) (rest : List UInt32) :
    (list.Parsed ↔ list.rest = []) ∧ (ComesBack (first :: rest) ↔ rest = []) :=
  ⟨list.parsed_iff, comesBack_list_iff first rest⟩

/-- The text `0,1`. -/
def zeroAndOne : CPUList where
  first := .cpu ⟨[48], by decide, List.forall_mem_singleton.mpr rfl⟩ (by decide)
  rest := [.cpu ⟨[49], by decide, List.forall_mem_singleton.mpr rfl⟩ (by decide)]
  short := by decide

/-- The parser finds the comma of `0,1` for ever, though it is the text of two CPUs. -/
theorem not_cpusetCodec_zeroAndOne : ¬ zeroAndOne.Parsed ∧ ¬ ComesBack [0, 1] := by
  constructor
  · intro parsed
    exact absurd (zeroAndOne.parsed_iff.mp parsed) (by decide)
  · intro back
    exact absurd ((comesBack_list_iff 0 [1]).mp back) (by decide)

end Stheno.QoS
