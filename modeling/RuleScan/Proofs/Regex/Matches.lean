import Mathlib.Data.List.Basic
import RuleScan.Regex.Search

/-!
# The matches of a program

A thread never forgets where it was started, so that a match starts and stops inside the buffer, at
the position where the search began or later (`find_within`). Of the list of matches one step is
taken apart once (`findFrom_cases`): a match, and the matches from a later position on. The matches
of a program stand in the order of their starts and do not overlap (`matches_pairwise`), and none is
missed (`matches_eq`).
-/

namespace RuleScan.Regex

/-- A stretch that starts and stops between two positions. -/
structure Span.Within (first last : Nat) (m : Span) : Prop where
  first_le : first ≤ m.start
  start_le : m.start ≤ m.stop
  le_last : m.stop ≤ last

variable (p : Program) (data : ByteArray)

/-! ## Where threads were started -/

theorem follow_threads {pos start fuel : Nat} {pcs : List Nat} {front : Front} {t : Thread}
    (h : t ∈ (follow p data pos start fuel pcs front).threads) :
    t ∈ front.threads ∨ t.start = start := by
  fun_induction follow p data pos start fuel pcs front with
  | case1 => exact .inl h
  | case2 => exact .inl h
  | case3 _ _ _ _ _ ih => exact ih h
  | case4 _ _ _ _ _ _ _ _ ih => exact ih h
  | case5 _ _ _ _ _ _ _ _ _ ih => exact ih h
  | case6 _ _ _ _ _ _ _ _ ih =>
    rcases ih h with h | h
    · rcases Array.mem_push.1 h with h | rfl
      · exact .inl h
      · exact .inr rfl
    · exact .inr h

theorem takeByte_threads {pos : Nat} {t u : Thread} {next : Front}
    (h : u ∈ (takeByte p data pos t next).threads) : u ∈ next.threads ∨ u.start = t.start := by
  have hwaiting {n : Nat} (h : u ∈ next.threads.push { t with wait := n }) :
      u ∈ next.threads ∨ u.start = t.start := by
    rcases Array.mem_push.1 h with h | rfl
    · exact .inl h
    · exact .inr rfl
  unfold takeByte at h
  split at h
  · exact hwaiting h
  split at h
  · exact follow_threads p data h
  split at h
  · split at h
    · exact follow_threads p data h
    · exact .inl h
  · split at h
    · split at h
      · split at h
        · exact follow_threads p data h
        · exact hwaiting h
      · exact .inl h
    · exact .inl h
  · exact .inl h

/-- A match found at a position comes from one of the threads, and so do the threads that go on. -/
theorem takeAll_threads (pos : Nat) (threads : List Thread) (best : Option Span) (next : Front) :
    ((takeAll p data pos threads best next).1 = best ∨
        ∃ t ∈ threads, (takeAll p data pos threads best next).1 = some ⟨t.start, pos⟩) ∧
      ∀ u ∈ (takeAll p data pos threads best next).2.threads,
        u ∈ next.threads ∨ ∃ t ∈ threads, u.start = t.start := by
  induction threads generalizing next with
  | nil => exact ⟨.inl rfl, fun u hu => .inl hu⟩
  | cons t rest ih =>
    rw [takeAll]
    split
    · exact ⟨.inr ⟨t, List.mem_cons_self, rfl⟩, fun u hu => .inl hu⟩
    · obtain ⟨hbest, hnext⟩ := ih (takeByte p data pos t next)
      constructor
      · rcases hbest with h | ⟨u, hu, h⟩
        · exact .inl h
        · exact .inr ⟨u, List.mem_cons_of_mem _ hu, h⟩
      · intro u hu
        rcases hnext u hu with h | ⟨v, hv, h⟩
        · rcases takeByte_threads p data h with h | h
          · exact .inl h
          · exact .inr ⟨t, List.mem_cons_self, h⟩
        · exact .inr ⟨v, List.mem_cons_of_mem _ hv, h⟩

/-! ## One match -/

/-- A run finds a match between the position where the search began and the end of the buffer, if
all threads were started there. -/
theorem run_within {first fuel pos : Nat} {best : Option Span} {front : Front} {m : Span}
    (hfirst : first ≤ pos) (hfuel : fuel + pos ≤ data.size + 1)
    (hbest : ∀ b, best = some b → b.Within first data.size)
    (hfront : ∀ t ∈ front.threads, first ≤ t.start ∧ t.start ≤ pos)
    (h : run p data fuel pos best front = some m) : m.Within first data.size := by
  induction fuel generalizing pos best front with
  | zero => exact hbest m h
  | succ fuel ih =>
    -- the threads that are there once a new one was started at this position
    have hstarted : ∀ t ∈ (if best.isNone then follow p data pos pos p.fuel [0] front
        else front).threads, first ≤ t.start ∧ t.start ≤ pos := by
      intro t ht
      split at ht
      · rcases follow_threads p data ht with ht | ht
        · exact hfront t ht
        · omega
      · exact hfront t ht
    rw [run] at h
    dsimp only at h
    generalize (if best.isNone then follow p data pos pos p.fuel [0] front else front) = started
      at h hstarted
    split at h
    · exact hbest m h
    · obtain ⟨hfound, hnext⟩ := takeAll_threads p data pos started.threads.toList best
        { entered := started.entered, threads := #[] }
      refine ih (by omega) (by omega) (fun b hb => ?_) (fun u hu => ?_) h
      · rcases hfound with hkept | ⟨t, ht, hnew⟩
        · exact hbest b (hkept.symm.trans hb)
        · obtain rfl := Option.some.inj (hnew.symm.trans hb)
          have hstart := hstarted t (Array.mem_toList_iff.1 ht)
          exact ⟨hstart.1, hstart.2, by dsimp only; omega⟩
      · rcases hnext u hu with hu | ⟨t, ht, hstart⟩
        · exact absurd hu (Array.not_mem_empty u)
        · have := hstarted t (Array.mem_toList_iff.1 ht)
          omega

/-- **A match lies in the buffer**, behind the position from which it was looked for. -/
theorem find_within {pos : Nat} {m : Span} (h : p.find data pos = some m) :
    m.Within pos data.size := by
  by_cases hpos : pos ≤ data.size + 1
  · exact run_within p data (Nat.le_refl pos) (by omega) (by simp) (by simp) h
  · have hfuel : data.size + 1 - pos = 0 := by omega
    rw [Program.find, hfuel] at h
    cases h

/-! ## All matches -/

/-- The next match of a list; an empty one right behind another match is passed over. -/
def Program.nextMatch? (pos : Nat) (afterMatch : Bool) : Option Span :=
  match p.find data pos with
  | some m => if afterMatch && m.stop = pos then p.find data (pos + 1) else some m
  | none => none

theorem findFrom_succ (fuel pos : Nat) (afterMatch : Bool) :
    p.findFrom data (fuel + 1) pos afterMatch =
      match p.nextMatch? data pos afterMatch with
      | none => []
      | some m =>
        if m.stop = m.start then m :: p.findFrom data fuel (m.stop + 1) false
        else m :: p.findFrom data fuel m.stop true := rfl

theorem nextMatch?_within {pos : Nat} {afterMatch : Bool} {m : Span}
    (h : p.nextMatch? data pos afterMatch = some m) : m.Within pos data.size := by
  unfold Program.nextMatch? at h
  split at h
  · next first hfirst =>
    split at h
    · have hlater := find_within p data h
      exact ⟨Nat.le_of_succ_le hlater.first_le, hlater.start_le, hlater.le_last⟩
    · cases h
      exact find_within p data hfirst
  · cases h

/-- The first match of a list, and where the next one is looked for. -/
theorem findFrom_cases (pos : Nat) (afterMatch : Bool) :
    (∀ fuel, p.findFrom data fuel pos afterMatch = []) ∨
      ∃ m next behind, m.Within pos data.size ∧ m.start < next ∧ m.stop ≤ next ∧
        ∀ fuel, p.findFrom data (fuel + 1) pos afterMatch =
          m :: p.findFrom data fuel next behind := by
  rcases hm : p.nextMatch? data pos afterMatch with _ | m
  · refine .inl fun fuel => ?_
    cases fuel with
    | zero => rfl
    | succ fuel => rw [findFrom_succ, hm]
  · have hwithin := nextMatch?_within p data hm
    have horder := hwithin.start_le
    by_cases hempty : m.stop = m.start
    · refine .inr ⟨m, m.stop + 1, false, hwithin, by omega, by omega, fun fuel => ?_⟩
      rw [findFrom_succ, hm]
      exact if_pos hempty
    · refine .inr ⟨m, m.stop, true, hwithin, by omega, Nat.le_refl _, fun fuel => ?_⟩
      rw [findFrom_succ, hm]
      exact if_neg hempty

theorem within_of_mem_findFrom {fuel pos : Nat} {afterMatch : Bool} {m : Span}
    (h : m ∈ p.findFrom data fuel pos afterMatch) : m.Within pos data.size := by
  induction fuel generalizing pos afterMatch with
  | zero => cases h
  | succ fuel ih =>
    obtain hnone | ⟨first, next, behind, hfirst, hlt, -, hlist⟩ :=
      findFrom_cases p data pos afterMatch
    · rw [hnone] at h
      cases h
    · rw [hlist] at h
      rcases List.mem_cons.1 h with rfl | h
      · exact hfirst
      · have hlater := ih h
        have hpos := hfirst.first_le
        have hnext := hlater.first_le
        exact ⟨by omega, hlater.start_le, hlater.le_last⟩

/-- Two matches of a buffer, the second of which starts later, and not inside the first. -/
def Span.Before (a b : Span) : Prop := a.start < b.start ∧ a.stop ≤ b.start

theorem findFrom_pairwise (fuel pos : Nat) (afterMatch : Bool) :
    (p.findFrom data fuel pos afterMatch).Pairwise Span.Before := by
  induction fuel generalizing pos afterMatch with
  | zero => exact .nil
  | succ fuel ih =>
    obtain hnone | ⟨m, next, behind, -, hstart, hstop, hlist⟩ :=
      findFrom_cases p data pos afterMatch
    · rw [hnone]
      exact .nil
    · rw [hlist]
      refine .cons (fun later hlater => ?_) (ih next behind)
      have hnext := (within_of_mem_findFrom p data hlater).first_le
      exact ⟨by omega, by omega⟩

/-- The limit of a list only cuts it off. -/
theorem findFrom_take {fuel limit : Nat} (hle : limit ≤ fuel) (pos : Nat) (afterMatch : Bool) :
    (p.findFrom data fuel pos afterMatch).take limit = p.findFrom data limit pos afterMatch := by
  induction limit generalizing fuel pos afterMatch with
  | zero => rfl
  | succ limit ih =>
    obtain ⟨fuel, rfl⟩ : ∃ k, fuel = k + 1 := ⟨fuel - 1, by omega⟩
    rcases findFrom_cases p data pos afterMatch with hnone | ⟨m, next, behind, -, -, -, hlist⟩
    · rw [hnone, hnone]
      rfl
    · rw [hlist, hlist, List.take_succ_cons, ih (Nat.le_of_succ_le_succ hle)]

/-- At most one match starts at each position. -/
theorem length_findFrom_le (fuel pos : Nat) (afterMatch : Bool) :
    (p.findFrom data fuel pos afterMatch).length ≤ data.size + 1 - pos := by
  induction fuel generalizing pos afterMatch with
  | zero => exact Nat.zero_le _
  | succ fuel ih =>
    obtain hnone | ⟨m, next, behind, hm, hstart, -, hlist⟩ :=
      findFrom_cases p data pos afterMatch
    · rw [hnone]
      exact Nat.zero_le _
    · rw [hlist, List.length_cons]
      have hrest := ih next behind
      obtain ⟨hfirst, hstop, hlast⟩ := hm
      omega

theorem within_of_mem_matches {m : Span} (h : m ∈ p.matches data) : m.Within 0 data.size :=
  within_of_mem_findFrom p data h

theorem matches_pairwise : (p.matches data).Pairwise Span.Before :=
  findFrom_pairwise p data _ 0 false

/-- **All matches are there**: a search that may go on for longer finds no more. -/
theorem matches_eq {fuel : Nat} (h : data.size < fuel) :
    p.findFrom data fuel 0 false = p.matches data := by
  rw [Program.matches, ← findFrom_take p data h, List.take_of_length_le]
  exact length_findFrom_le p data fuel 0 false

end RuleScan.Regex
