import Chip8.Proofs.Effects

/-!
# Random bytes are drawn in order

Random words are made in blocks.  A generator makes four blocks at a time, when
the words that it has made ahead are used up, and hands the words out one by
one; of each word the low byte is used.  `RandomSource` does not keep any words,
but counts how many were handed out, and the two come to the same.

Only the instruction for random numbers draws a byte, and it always draws one.
So in a run the count is the number of these instructions that were carried out,
and each gets the byte whose number that is.

## Main results

* `Random.Generator.byte_after` — the bytes that a generator hands out.
* `Console.random_act`, `Console.random_acts` — what an action, and a run, do to
  the count.
* `Console.draws_in_order` — which byte an instruction gets in a run.
-/

namespace Chip8

/-! ## Generators -/

namespace Random

/-- Word number `k` of a seed. -/
def wordAt (seed : UInt64) (k : Nat) : UInt32 :=
  (block seed (UInt64.ofNat (k / 16))).get (Fin.ofNat 16 k)

/-- The words of some blocks, from one on. -/
def blocksFrom (seed number : UInt64) : Nat → List UInt32
  | 0 => []
  | count + 1 => (block seed number).toList ++ blocksFrom seed (number + 1) count

/-- A maker of random words that makes some of them ahead. -/
structure Generator where
  /-- What fixes the words. -/
  seed : UInt64
  /-- The words that were made and not yet handed out. -/
  ahead : List UInt32 := []
  /-- The number of the block that is made next. -/
  number : UInt64 := 0
  deriving DecidableEq, Repr

namespace Generator

/-- How many blocks are made at a time. -/
def blocks : Nat := 4

/-- Makes words ahead, if there are none. -/
def refill (g : Generator) : Generator :=
  if g.ahead.isEmpty then
    { g with
      ahead := blocksFrom g.seed g.number blocks
      number := g.number + UInt64.ofNat blocks }
  else g

/-- The generator after some words were handed out. -/
def after (g : Generator) : Nat → Generator
  | 0 => g
  | n + 1 =>
    let g := (g.after n).refill
    { g with ahead := g.ahead.tail }

/-- The low byte of the word that is handed out next. -/
def byte (g : Generator) : UInt8 :=
  (g.refill.ahead.headD 0).toUInt8

end Generator

/-- The words of a block are sixteen words of its seed. -/
theorem toList_block (seed : UInt64) (n : Nat) :
    (block seed (UInt64.ofNat n)).toList =
      (List.range' (16 * n) 16).map (wordAt seed) := by
  apply List.ext_getElem
  · simp
  · intro j hj _
    rw [Vector.length_toList] at hj
    have hdiv : (16 * n + j) / 16 = n := by omega
    have hmod : (16 * n + j) % 16 = j := by omega
    rw [List.getElem_map, List.getElem_range', Nat.one_mul, wordAt, hdiv,
      Vector.getElem_toList]
    show _ = (block seed (UInt64.ofNat n))[(Fin.ofNat 16 (16 * n + j)).val]
    simp only [Fin.val_ofNat, hmod]

/-- The words of blocks that follow one another are words of their seed that
follow one another. -/
theorem blocksFrom_eq (seed : UInt64) (n count : Nat) :
    blocksFrom seed (UInt64.ofNat n) count =
      (List.range' (16 * n) (16 * count)).map (wordAt seed) := by
  induction count generalizing n with
  | zero => rfl
  | succ count ih =>
      have hnumber : UInt64.ofNat n + 1 = UInt64.ofNat (n + 1) :=
        (UInt64.ofNat_add n 1).symm
      have hwords : 16 * (count + 1) = 16 + 16 * count := by omega
      have hnext : 16 * (n + 1) = 16 * n + 1 * 16 := by omega
      rw [blocksFrom, hnumber, ih, toList_block, hwords, ← List.map_append,
        hnext, List.range'_append]

namespace Generator

/-- A generator of which `k` words were handed out: what it has made ahead are
the next ones, up to the end of a block. -/
structure At (seed : UInt64) (k : Nat) (g : Generator) : Prop where
  sameSeed : g.seed = seed
  ahead : g.ahead = (List.range' k g.ahead.length).map (wordAt seed)
  number : ∃ n, g.number = UInt64.ofNat n ∧ k + g.ahead.length = 16 * n

variable {seed : UInt64} {k : Nat} {g : Generator}

theorem at_start (seed : UInt64) : At seed 0 { seed } where
  sameSeed := rfl
  ahead := rfl
  number := ⟨0, rfl, rfl⟩

/-- Making words ahead hands none out, and then there are some. -/
theorem At.refill (h : At seed k g) :
    At seed k g.refill ∧ g.refill.ahead ≠ [] := by
  unfold Generator.refill
  split
  · next hempty =>
      obtain ⟨n, hnumber, hend⟩ := h.number
      rw [List.isEmpty_iff.mp hempty, List.length_nil, Nat.add_zero] at hend
      have hwords := blocksFrom_eq seed n blocks
      have hlength : (blocksFrom seed g.number blocks).length =
          16 * blocks := by
        rw [hnumber, hwords, List.length_map, List.length_range']
      refine ⟨⟨h.sameSeed, ?_, n + blocks, ?_, ?_⟩, ?_⟩
      · show blocksFrom g.seed g.number blocks = _
        rw [h.sameSeed, hlength, hnumber, hwords, hend]
      · show g.number + UInt64.ofNat blocks = _
        rw [hnumber, ← UInt64.ofNat_add]
      · show k + (blocksFrom g.seed g.number blocks).length = _
        rw [h.sameSeed, hlength, hend, Nat.mul_add]
      · show blocksFrom g.seed g.number blocks ≠ []
        rw [h.sameSeed]
        intro hnil
        rw [hnil] at hlength
        cases hlength
  · next hsome =>
      exact ⟨h, fun hnil => hsome (List.isEmpty_iff.mpr hnil)⟩

/-- The word that is handed out next is the one whose number is next. -/
theorem At.next (h : At seed k g) :
    g.refill.ahead.headD 0 = wordAt seed k ∧
      At seed (k + 1) { g.refill with ahead := g.refill.ahead.tail } := by
  obtain ⟨⟨hseed, hwords, n, hnumber, hend⟩, hsome⟩ := h.refill
  cases hahead : g.refill.ahead with
  | nil => exact absurd hahead hsome
  | cons word rest =>
      rw [hahead, List.length_cons, List.range'_succ, List.map_cons] at hwords
      obtain ⟨hword, hrest⟩ := List.cons.inj hwords
      rw [hahead, List.length_cons] at hend
      refine ⟨hword, hseed, hrest, n, hnumber, ?_⟩
      show k + 1 + rest.length = 16 * n
      omega

theorem at_after (seed : UInt64) (k : Nat) :
    At seed k (({ seed } : Generator).after k) := by
  induction k with
  | zero => exact at_start seed
  | succ k ih => exact ih.next.2

/-- The bytes that a generator hands out are those of its seed, in order. -/
theorem byte_after (seed : UInt64) (k : Nat) :
    (({ seed } : Generator).after k).byte = byteAt seed k := by
  rw [byte, (at_after seed k).next.1]
  rfl

end Generator

end Random

/-! ## Runs -/

/-- Whether an instruction is one for random numbers. -/
def Instruction.isRandom : Instruction → Bool
  | random _ _ => true
  | _ => false

/-- An instruction draws one byte if it is for random numbers, and none
otherwise. -/
theorem Machine.Effect.random {m after : Machine} {k : Keypad} {i : Instruction}
    (h : m.Effect k i after) :
    after.random =
      { m.random with drawn := m.random.drawn + if i.isRandom then 1 else 0 } := by
  cases h with
  | table hkey htable =>
      have hseed := htable.seed
      have hdrawn := htable.randomPosition
      cases hrandom : after.random with
      | mk seed drawn =>
          rw [hrandom] at hseed hdrawn
          cases hseed
          cases i with
          | random x nn => rw [show drawn = _ from hdrawn]; rfl
          | _ => rw [show drawn = _ from hdrawn]; rfl
  | gotKey x value ticket => rfl
  | stalled x ticket => rfl

namespace Console

section Runs

variable {σ : Type} [Screen σ]

/-- An action draws a byte for the instruction that it carries out, if that is
for random numbers, and none otherwise. -/
theorem random_act (c : Console σ) (action : Action) :
    (c.act action).machine.random =
      { c.machine.random with
        drawn := c.machine.random.drawn +
          (c.executed? action).toList.countP Instruction.isRandom } := by
  have heffect := c.effect_act action
  generalize c.executed? action = i?, (c.act action).machine = after at heffect
  cases heffect with
  | ran hfetch h =>
      rw [h.random, Option.toList_some, List.countP_singleton]
  | counted => rfl
  | kept => rfl

/-- A run draws a byte for each instruction for random numbers. -/
theorem random_acts (c : Console σ) (actions : List Action) :
    (c.acts actions).machine.random =
      { c.machine.random with
        drawn := c.machine.random.drawn +
          (c.executed actions).countP Instruction.isRandom } := by
  induction actions generalizing c with
  | nil => rfl
  | cons action rest ih =>
      show ((c.act action).acts rest).machine.random = _
      rw [ih, random_act, executed, List.countP_append, Nat.add_assoc]

/-- An instruction for random numbers puts the next byte into its register, of
which it keeps the bits that it was told to. -/
theorem register_of_executed_random {c : Console σ} {x : Register} {nn : UInt8}
    (h : c.executed? .step = some (.random x nn)) :
    (c.act .step).machine.register x =
      nn &&& Random.byteAt c.machine.random.seed c.machine.random.drawn := by
  have hvalue := (after_of_executed h nofun).register x
  unfold Machine.value at hvalue
  rw [Table.register, if_pos rfl, ← UInt8.toNat_and] at hvalue
  rw [UInt8.toNat_inj.mp hvalue, UInt8.and_comm]

/-- **Random bytes are drawn in order.**  At any time in a run, as many bytes
have been drawn as instructions for random numbers were carried out.  If `k` of
them were, the next one gets byte number `k` of a generator that makes its words
in blocks ahead, keeps the bits that it was told to, and has then drawn that
byte, also if it keeps no bit of it.  Whatever else is done draws nothing, be it
an instruction, a step that fails, one that waits for a key, or no step at
all. -/
theorem draws_in_order (memory : Memory) (resolution : Resolution)
    (seed : UInt64) (screen : σ) (actions : List Action) {c : Console σ}
    {k : Nat} (hc : c = (start memory resolution seed screen).acts actions)
    (hk : k = ((start memory resolution seed screen).executed actions).countP
      Instruction.isRandom) :
    c.machine.random = ⟨seed, k⟩ ∧
      (∀ x nn, c.executed? .step = some (.random x nn) →
        (c.act .step).machine.register x =
          nn &&& (({ seed } : Random.Generator).after k).byte ∧
        (c.act .step).machine.random = ⟨seed, k + 1⟩) ∧
      ∀ action, (∀ x nn, c.executed? action ≠ some (.random x nn)) →
        (c.act action).machine.random = ⟨seed, k⟩ := by
  have hrandom : c.machine.random = ⟨seed, k⟩ := by
    rw [hc, random_acts, ← hk]
    exact congrArg (RandomSource.mk seed) (Nat.zero_add k)
  refine ⟨hrandom, fun x nn hdraw => ⟨?_, ?_⟩, fun action hother => ?_⟩
  · rw [register_of_executed_random hdraw, hrandom, Random.Generator.byte_after]
  · rw [random_act, hdraw, hrandom]
    rfl
  · have hnone : (c.executed? action).toList.countP Instruction.isRandom =
        0 := by
      rw [List.countP_eq_zero]
      intro i hi
      cases i with
      | random x nn => exact absurd (Option.mem_toList.mp hi) (hother x nn)
      | _ => exact Bool.false_ne_true
    rw [random_act, hnone, hrandom]
    rfl

end Runs

/-- An instruction for random numbers is always carried out. -/
theorem step_of_random {σ : Type} [Screen σ] {c : Console σ} {opcode : UInt16}
    {x : Register} {nn : UInt8}
    (hword : c.machine.memory.word c.machine.pc = .ok opcode)
    (hdecode : Instruction.decode opcode = some (.random x nn)) :
    c.executed? .step = some (.random x nn) ∧
      (c.act .step).machine.memory = c.machine.memory ∧
      (c.act .step).machine.pc = c.machine.pc + 2 := by
  obtain ⟨hexecuted, hact⟩ := act_step_of_execute hword hdecode rfl
  rw [hact]
  exact ⟨hexecuted, rfl, rfl⟩

/-- A program that draws a byte of which it keeps nothing, and then one of which
it keeps everything. -/
def masking : Memory :=
  .loaded [0xC0, 0x00, 0xC1, 0xFF] (by decide)

/-- The byte of which nothing is kept is drawn all the same, so the other one is
the second. -/
theorem draws_in_order_masking :
    ∃ c, c = (start masking .standard 7 ({} : Headless)).acts
        [.frame, .step, .press (.hex 5)] ∧
      ((start masking .standard 7 ({} : Headless)).executed
        [.frame, .step, .press (.hex 5)]).countP Instruction.isRandom = 1 ∧
      c.executed? .step = some (.random 1 0xFF) ∧
      (c.act .step).machine.register 1 =
        0xFF &&& (({ seed := 7 } : Random.Generator).after 1).byte := by
  let c₁ := (start masking .standard 7 ({} : Headless)).act .frame
  have hframe : c₁.machine.memory = masking ∧ c₁.machine.pc = 0x200 :=
    ⟨rfl, rfl⟩
  have hfirst : c₁.machine.memory.word c₁.machine.pc = .ok 0xC000 := by
    rw [hframe.1, hframe.2]
    exact Memory.word_loaded (j := 0) (by decide) (by decide) rfl
  have hmasked : Instruction.decode 0xC000 = some (.random 0 0) := by decide
  obtain ⟨hexecuted, hmemory, hpc⟩ := step_of_random hfirst hmasked
  let c := (c₁.act .step).act (.press (.hex 5))
  have hpress (c : Console Headless) (key : Key) :
      (c.act (.press key)).machine = c.machine := rfl
  have hsecond : c.machine.memory.word c.machine.pc = .ok 0xC1FF := by
    rw [hpress, hmemory, hpc, hframe.1, hframe.2]
    exact Memory.word_loaded (j := 2) (by decide) (by decide) rfl
  have hkept : Instruction.decode 0xC1FF = some (.random 1 0xFF) := by decide
  obtain ⟨hdraw, _, _⟩ := step_of_random hsecond hkept
  have hacts (c : Console Headless) (a b d : Action) :
      c.acts [a, b, d] = ((c.act a).act b).act d := rfl
  have hlist (c : Console Headless) (a b d : Action) :
      c.executed [a, b, d] = (c.executed? a).toList ++
        (((c.act a).executed? b).toList ++
          ((((c.act a).act b).executed? d).toList ++ [])) := rfl
  have hcount : ((start masking .standard 7 ({} : Headless)).executed
      [.frame, .step, .press (.hex 5)]).countP Instruction.isRandom = 1 := by
    rw [hlist, hexecuted]
    rfl
  obtain ⟨_, hbyte, _⟩ := draws_in_order (c := c) (k := 1) masking .standard 7
    ({} : Headless) [.frame, .step, .press (.hex 5)] (hacts _ _ _ _).symm
    hcount.symm
  exact ⟨c, (hacts _ _ _ _).symm, hcount, hdraw, (hbyte 1 0xFF hdraw).1⟩

end Console

end Chip8
