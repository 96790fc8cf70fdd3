import Mathlib.Data.List.Nodup
import OpenWoW.Spellbook

/-! The order of the ranks in the chains. -/
namespace OpenWoW.Spellbook

open List Option

namespace SpellRanks

variable (ranks : SpellRanks) {spell other : Nat}

theorem chainOf_mem_chains (there : other ∈ ranks.chainOf spell) :
    ranks.chainOf spell ∈ ranks.chains ∧ spell ∈ ranks.chainOf spell := by
  unfold chainOf at there ⊢
  cases found : ranks.chains.find? fun chain => spell ∈ chain with
  | none =>
    rw [found] at there
    cases there
  | some chain =>
    have has := find?_some found
    exact ⟨mem_of_find?_eq_some found, by simpa using has⟩

theorem eq_of_mem {chain chain' : List Nat} (there : chain ∈ ranks.chains)
    (there' : chain' ∈ ranks.chains) (mem : spell ∈ chain) (mem' : spell ∈ chain') :
    chain = chain' := by
  by_contra different
  have : Std.Symm (@List.Disjoint Nat) := ⟨fun _ _ apart => disjoint_symm apart⟩
  have apart := (nodup_flatten.mp ranks.distinct).2.forall there there' different
  exact apart mem mem'

theorem chainOf_of_mem_chain {chain : List Nat} (there : chain ∈ ranks.chains)
    (mem : spell ∈ chain) : ranks.chainOf spell = chain := by
  have some : (ranks.chains.find? fun chain => spell ∈ chain).isSome := by
    rw [find?_isSome]
    exact ⟨chain, there, by simpa using mem⟩
  obtain ⟨found, isFound⟩ := isSome_iff_exists.mp some
  have whole : ranks.chainOf spell = found := by rw [chainOf, isFound, getD_some]
  rw [whole]
  have has := find?_some isFound
  exact ranks.eq_of_mem (mem_of_find?_eq_some isFound) there (by simpa using has) mem

theorem chainOf_of_mem (there : other ∈ ranks.chainOf spell) :
    ranks.chainOf other = ranks.chainOf spell :=
  ranks.chainOf_of_mem_chain (ranks.chainOf_mem_chains there).1 there

theorem nodup_chainOf (spell : Nat) : (ranks.chainOf spell).Nodup := by
  cases whole : ranks.chainOf spell with
  | nil => exact nodup_nil
  | cons first rest =>
    rw [← whole]
    apply (nodup_flatten.mp ranks.distinct).1
    have mem : first ∈ ranks.chainOf spell := by
      rw [whole]
      exact mem_cons_self
    exact (ranks.chainOf_mem_chains mem).1

theorem ne_zero_of_mem (there : other ∈ ranks.chainOf spell) : other ≠ 0 := by
  intro zero
  apply ranks.positive
  rw [← zero]
  exact mem_flatten.mpr ⟨_, (ranks.chainOf_mem_chains there).1, there⟩

end SpellRanks

namespace Tables

variable (tables : Tables) {spell other third : Nat}

def Ranks (spell other : Nat) : Prop := other ∈ tables.ranks.chainOf spell

instance (spell other : Nat) : Decidable (tables.Ranks spell other) :=
  inferInstanceAs (Decidable (other ∈ tables.ranks.chainOf spell))

section
variable {tables : Tables} (same : tables.Ranks spell other)
include same

theorem Ranks.self : tables.Ranks spell spell :=
  (tables.ranks.chainOf_mem_chains same).2

theorem Ranks.chain :
    tables.ranks.chainOf other = tables.ranks.chainOf spell :=
  tables.ranks.chainOf_of_mem same

theorem Ranks.symm : tables.Ranks other spell := by
  unfold Ranks
  rw [same.chain]
  exact same.self

theorem Ranks.trans (also : tables.Ranks other third) :
    tables.Ranks spell third := by
  have chain := same.chain
  unfold Ranks at *
  rw [← chain]
  exact also

end

theorem isRanked_iff : tables.isRanked spell ↔ tables.Ranks spell spell := by
  unfold isRanked Ranks
  rw [decide_eq_true_iff]
  constructor
  · intro some
    obtain ⟨other, there⟩ := exists_mem_of_ne_nil _ some
    exact (tables.ranks.chainOf_mem_chains there).2
  · intro there
    exact ne_nil_of_mem there

section
variable {tables : Tables} (same : tables.Ranks spell other)
include same

theorem Ranks.ne_zero : other ≠ 0 :=
  tables.ranks.ne_zero_of_mem same

theorem Ranks.getElem? :
    (tables.ranks.chainOf spell)[tables.getSpellRank other]? = some other := by
  unfold getSpellRank
  rw [same.chain]
  exact getElem?_idxOf same

theorem Ranks.eq_of_rank (also : tables.Ranks spell third)
    (rank : tables.getSpellRank other = tables.getSpellRank third) : other = third := by
  have first := same.getElem?
  rw [rank, also.getElem?] at first
  exact (some.inj first).symm

end

theorem ranks_of_getElem? {i : Nat} (there : (tables.ranks.chainOf spell)[i]? = some other) :
    tables.Ranks spell other ∧ tables.getSpellRank other = i := by
  have mem : tables.Ranks spell other := mem_of_getElem? there
  refine ⟨mem, ?_⟩
  unfold getSpellRank
  rw [mem.chain]
  obtain ⟨small, isOther⟩ := List.getElem?_eq_some_iff.mp there
  rw [← isOther]
  exact (tables.ranks.nodup_chainOf spell).idxOf_getElem i small

theorem getD_ne_zero {i : Nat} (some : ((tables.ranks.chainOf spell)[i]?).getD 0 ≠ 0) :
    (tables.ranks.chainOf spell)[i]? = Option.some (((tables.ranks.chainOf spell)[i]?).getD 0) := by
  cases there : (tables.ranks.chainOf spell)[i]? with
  | none =>
    rw [there] at some
    exact absurd rfl some
  | some other => rfl

theorem next_spec (higher : tables.getNextSpellInChain spell ≠ 0) :
    tables.Ranks spell (tables.getNextSpellInChain spell) ∧
      tables.getSpellRank (tables.getNextSpellInChain spell) = tables.getSpellRank spell + 1 :=
  tables.ranks_of_getElem? (tables.getD_ne_zero higher)

theorem prev_spec (lower : tables.getPrevSpellInChain spell ≠ 0) :
    tables.Ranks spell (tables.getPrevSpellInChain spell) ∧
      tables.getSpellRank (tables.getPrevSpellInChain spell) + 1 = tables.getSpellRank spell := by
  unfold getPrevSpellInChain at lower ⊢
  split at lower
  · exact absurd rfl lower
  next positive =>
  rw [if_neg positive]
  obtain ⟨same, rank⟩ := tables.ranks_of_getElem? (tables.getD_ne_zero lower)
  exact ⟨same, by omega⟩

theorem prev_next (higher : tables.getNextSpellInChain spell ≠ 0) :
    tables.getPrevSpellInChain (tables.getNextSpellInChain spell) = spell := by
  obtain ⟨same, rank⟩ := tables.next_spec higher
  unfold getPrevSpellInChain
  rw [if_neg (by omega), same.chain, rank, Nat.add_sub_cancel, same.self.getElem?]
  rfl

theorem next_prev (lower : tables.getPrevSpellInChain spell ≠ 0) :
    tables.getNextSpellInChain (tables.getPrevSpellInChain spell) = spell := by
  obtain ⟨same, rank⟩ := tables.prev_spec lower
  rw [getNextSpellInChain, same.chain, rank, same.self.getElem?]
  rfl

theorem exists_next (same : tables.Ranks spell other)
    (higher : tables.getSpellRank spell < tables.getSpellRank other) :
    tables.getNextSpellInChain spell ≠ 0 := by
  have there := same.getElem?
  obtain ⟨small, _⟩ := List.getElem?_eq_some_iff.mp there
  have next : tables.getSpellRank spell + 1 < (tables.ranks.chainOf spell).length := by omega
  rw [getNextSpellInChain, getElem?_eq_getElem next, getD_some]
  exact tables.ranks.ne_zero_of_mem (getElem_mem next)

theorem exists_prev (same : tables.Ranks spell spell) (later : tables.getSpellRank spell ≠ 0) :
    tables.getPrevSpellInChain spell ≠ 0 := by
  have there := same.getElem?
  obtain ⟨small, _⟩ := List.getElem?_eq_some_iff.mp there
  have prev : tables.getSpellRank spell - 1 < (tables.ranks.chainOf spell).length := by omega
  rw [getPrevSpellInChain, if_neg later, getElem?_eq_getElem prev, getD_some]
  exact tables.ranks.ne_zero_of_mem (getElem_mem prev)

theorem head_mem (same : tables.Ranks spell spell) :
    tables.Ranks spell (tables.getFirstSpellInChain spell) := by
  unfold getFirstSpellInChain
  unfold Ranks at same ⊢
  cases whole : tables.ranks.chainOf spell with
  | nil =>
    rw [whole] at same
    cases same
  | cons first rest => exact mem_cons_self

theorem isDifferentRankOf_iff (ranked : tables.Ranks spell spell) :
    tables.isDifferentRankOf spell other ↔ spell ≠ other ∧ tables.Ranks spell other := by
  unfold isDifferentRankOf
  rw [decide_eq_true_iff]
  apply and_congr_right
  intro _
  constructor
  · intro first
    have mine := tables.head_mem ranked
    rw [first] at mine
    by_cases also : tables.Ranks other other
    · exact mine.trans (tables.head_mem also).symm
    have none : tables.ranks.chainOf other = [] := by
      by_contra some
      exact also ((tables.isRanked_iff).mp (decide_eq_true some))
    rw [getFirstSpellInChain, none] at mine
    exact mine
  · intro same
    unfold getFirstSpellInChain
    rw [same.chain]
    cases whole : tables.ranks.chainOf spell with
    | nil =>
      unfold Ranks at same
      rw [whole] at same
      cases same
    | cons first rest => rfl

theorem isHighRankOf_iff : tables.isHighRankOf spell other ↔
    tables.Ranks spell other ∧ tables.getSpellRank other < tables.getSpellRank spell := by
  unfold isHighRankOf
  rw [decide_eq_true_iff]
  constructor
  · intro ⟨ranked, _, first, rank⟩
    have mine := (tables.isRanked_iff).mp ranked
    have different : spell ≠ other := by
      intro same
      rw [same] at rank
      omega
    have isDifferent : tables.isDifferentRankOf spell other = true :=
      decide_eq_true ⟨different, first⟩
    exact ⟨((tables.isDifferentRankOf_iff mine).mp isDifferent).2, rank⟩
  · intro ⟨same, rank⟩
    have different : spell ≠ other := by
      intro equal
      rw [equal] at rank
      omega
    have ranks := (tables.isDifferentRankOf_iff same.self).mpr ⟨different, same⟩
    exact ⟨(tables.isRanked_iff).mpr same.self, (tables.isRanked_iff).mpr same.symm.self,
      (of_decide_eq_true ranks).2, rank⟩

end Tables

end OpenWoW.Spellbook
