import RuleScan.Proofs.Config.Durations
import RuleScan.Proofs.Pacing.Interruption

/-!
# Delays that were asked for

Whether a delay is empty is looked at three times: as a time span when it is set, as milliseconds
when a strategy is made, and as a time span again in each step. A strategy with a delay makes every
step wait until its time is over, as long as nobody interrupts (`Pacer.waits_of_delay`). But the
first two looks do not agree on a span whose milliseconds are none, or none modulo `2 ^ 64`: it is
not empty, and still no step waits. The main result is `Pacer.delay_honoured_iff`.
-/

namespace RuleScan.Pacer

/-! ## A step of a thread -/

theorem Room.look_now (i token since : Nat) (s : Room) :
    (s.look i token since).2.1.now = s.now := by
  rw [look]
  split <;> rfl

theorem Wait.next_now (i token : Nat) (stage : Wait) (s : Room) :
    (stage.next i token s).2.1.now = s.now := by
  cases stage with
  | entered =>
    rw [next]
    split
    · rfl
    · split
      · rfl
      · exact Room.look_now ..
  | looked since =>
    rw [next]
    split <;> rfl
  | asleep since =>
    rw [next]
    split
    · rfl
    · exact Room.look_now ..
  | returned how => rfl

/-- Where a thread is that came after some time and has to wait for a number of nanoseconds. -/
def Wait.Slow (nanos start now : Nat) : Wait → Prop
  | entered => True
  | looked since => start ≤ since
  | asleep since => start ≤ since
  | returned how => how = .timedOut ∧ nanos < now - start

theorem Wait.Slow.later {nanos start now later : Nat} (h : now ≤ later) {stage : Wait}
    (hslow : stage.Slow nanos start now) : stage.Slow nanos start later := by
  cases stage with
  | returned how => exact ⟨hslow.1, by have := hslow.2; omega⟩
  | _ => exact hslow

/-- A thread that looks when nobody has interrupted waits. -/
theorem Room.look_of_calm {s : Room} (hcalm : s.pacer.isInterrupted = false)
    (i token since : Nat) : (s.look i token since).1 = .looked since := by
  rw [look, if_neg (by rw [hcalm]; exact Bool.false_ne_true)]

/-- **A step of a thread** that has to wait, when nobody has interrupted. -/
theorem Wait.next_slow {s : Room} (hdelay : s.pacer.delay.isZero = false)
    (hcalm : s.pacer.isInterrupted = false) {start : Nat} (hstart : start ≤ s.now) (i token : Nat)
    {stage : Wait} (hslow : stage.Slow s.pacer.delay.toNanos start s.now) :
    (stage.next i token s).1.Slow s.pacer.delay.toNanos start s.now := by
  cases stage with
  | entered =>
    rw [next, if_neg (by rw [hdelay]; exact Bool.false_ne_true)]
    split
    · exact hslow
    · rw [Room.look_of_calm hcalm]
      exact hstart
  | looked since =>
    have hsince : start ≤ since := hslow
    rw [next]
    split
    · next hover => exact ⟨rfl, by omega⟩
    · exact hsince
  | asleep since =>
    rw [next]
    split
    · exact hslow
    · rw [Room.look_of_calm hcalm]
      exact hslow
  | returned how => exact hslow

/-! ## All threads -/

/-- What holds at any time when nobody has interrupted, of a thread that came after some time. -/
structure Unhurried (p : Pacer) (start i : Nat) (w : Crowd Room Nat Wait) : Prop where
  delay_eq : w.shared.pacer.delay = p.delay
  calm : w.shared.pacer.isInterrupted = false
  start_le : start ≤ w.shared.now
  slow (q : Party Nat Wait) (hq : w.parties[i]? = some q) :
    q.stage.Slow p.delay.toNanos start w.shared.now

namespace Unhurried

variable {p : Pacer} {start i : Nat} {w : Crowd Room Nat Wait}

/-- What is done beside the steps, but to interrupt. -/
theorem aside (h : Unhurried p start i w) {op : Room.Op} (hop : op ≠ .interrupt) :
    Unhurried p start i (w.take conduct (.aside op)).1 := by
  have htake : (w.take conduct (.aside op)).1 = { w with shared := (w.shared.perform op).1 } := rfl
  rw [htake]
  cases op with
  | interrupt => exact absurd rfl hop
  | resume =>
    rw [Room.perform]
    split
    · exact h
    · exact ⟨(delay_resume _).trans h.delay_eq, isInterrupted_resume _, h.start_le, h.slow⟩
  | pass nanos =>
    have hlater : w.shared.now ≤ w.shared.now + nanos := Nat.le_add_right ..
    exact ⟨h.delay_eq, h.calm, h.start_le.trans hlater, fun q hq => (h.slow q hq).later hlater⟩

/-- What threads do, this one or another. -/
theorem advance (h : Unhurried p start i w) (hdelay : p.delay.isZero = false) (j : Nat) :
    Unhurried p start i (w.take conduct (.advance j)).1 := by
  cases hj : w.parties[j]? with
  | none =>
    rw [Crowd.take_of_none _ hj]
    exact h
  | some r =>
    have hshared := take_shared hj
    have hpacer : (w.take conduct (.advance j)).1.shared.pacer = w.shared.pacer := by
      rw [hshared]
      exact (Wait.next_made j r.errand r.stage w.shared).pacer_eq
    have hnow : (w.take conduct (.advance j)).1.shared.now = w.shared.now := by
      rw [hshared]
      exact Wait.next_now ..
    refine ⟨by rw [hpacer, h.delay_eq], by rw [hpacer, h.calm], by rw [hnow]; exact h.start_le, ?_⟩
    intro q hq
    have htake := Crowd.party_take conduct i w (.advance j)
    rw [hnow]
    rw [hq] at htake
    generalize ho : some q = o at htake
    cases htake with
    | @advance r hr =>
      obtain rfl := Option.some.inj ho
      have hslow := h.slow r hr
      rw [← h.delay_eq] at hslow hdelay ⊢
      exact Wait.next_slow hdelay h.calm h.start_le i r.errand hslow
    | stay _ => exact h.slow q ho.symm

theorem take (h : Unhurried p start i w) (hdelay : p.delay.isZero = false) {turn : Turn}
    (hturn : turn ≠ .aside .interrupt) : Unhurried p start i (w.take conduct turn).1 := by
  cases turn with
  | enter token =>
    refine ⟨h.delay_eq, h.calm, h.start_le, fun q hq => ?_⟩
    have htake := Crowd.party_take conduct i w (.enter token)
    rw [hq] at htake
    generalize ho : some q = o at htake
    cases htake with
    | enter _ =>
      obtain rfl := Option.some.inj ho
      trivial
    | stay _ => exact h.slow q ho.symm
  | advance j => exact h.advance hdelay j
  | aside op => exact h.aside fun hop => hturn (by rw [hop])

theorem after (h : Unhurried p start i w) (hdelay : p.delay.isZero = false) {turns : List Turn}
    (hturns : .aside .interrupt ∉ turns) : Unhurried p start i (w.after conduct turns) := by
  induction turns generalizing w with
  | nil => exact h
  | cons turn rest ih =>
    obtain ⟨hturn, hrest⟩ := List.ne_and_not_mem_of_not_mem_cons hturns
    rw [Crowd.after_cons]
    exact ih (h.take hdelay hturn.symm) hrest

end Unhurried

/-! ## Strategies that make steps wait -/

/-- Every step waits, as long as nobody interrupts: whatever other threads do in between, a thread
that comes later than some turns and has returned after more of them did so because its time was
over, and that took longer than the delay. One that nothing comes in between does return. -/
structure Waits (p : Pacer) : Prop where
  timesOut {now : Nat} {first rest : List Turn} {i : Nat} {how : Return}
    (hfirst : .aside .interrupt ∉ first) (hrest : .aside .interrupt ∉ rest)
    (hnew : (after p now first).parties[i]? = none)
    (hreturned : (after p now (first ++ rest)).stage? i = some (.returned how)) :
    how = .timedOut ∧
      p.delay.toNanos < (after p now (first ++ rest)).shared.now - (after p now first).shared.now
  returns {now : Nat} {turns : List Turn} (hquiet : .aside .interrupt ∉ turns)
    (hfree : (after p now turns).shared.holder = none) (token : Nat) :
    ∃ n nanos m,
      let w := after p now turns
      (w.after conduct (comes w.parties.length token n nanos m)).stage? w.parties.length =
        some (.returned .timedOut)

theorem interrupt_notMem_comes (k token n nanos m : Nat) :
    .aside .interrupt ∉ comes k token n nanos m := by
  simp [comes]

/-- A thread that came when nobody had interrupted. -/
theorem unhurried {p : Pacer} (hdelay : p.delay.isZero = false) (hcalm : p.isInterrupted = false)
    (now : Nat) {first rest : List Turn} (hfirst : .aside .interrupt ∉ first)
    (hrest : .aside .interrupt ∉ rest) {i : Nat} (hnew : (after p now first).parties[i]? = none) :
    Unhurried p (after p now first).shared.now i (after p now (first ++ rest)) := by
  have hnobody : Unhurried p now 0 (nobody p now) :=
    ⟨rfl, hcalm, Nat.le_refl _, fun q hq => by simp [nobody] at hq⟩
  have hstart : Unhurried p now 0 (after p now first) := hnobody.after hdelay hfirst
  rw [after_append]
  refine Unhurried.after ⟨hstart.delay_eq, hstart.calm, Nat.le_refl _, fun q hq => ?_⟩ hdelay hrest
  exact absurd (hnew.symm.trans hq) (by simp)

/-- **A delay makes every step wait** that nobody interrupts. -/
theorem waits_of_delay {p : Pacer} (hdelay : p.delay.isZero = false)
    (hcalm : p.isInterrupted = false) : p.Waits := by
  have htimesOut {now : Nat} {first rest : List Turn} {i : Nat} {how : Return}
      (hfirst : .aside .interrupt ∉ first) (hrest : .aside .interrupt ∉ rest)
      (hnew : (after p now first).parties[i]? = none)
      (hreturned : (after p now (first ++ rest)).stage? i = some (.returned how)) :
      how = .timedOut ∧
        p.delay.toNanos <
          (after p now (first ++ rest)).shared.now - (after p now first).shared.now := by
    obtain ⟨token, hq⟩ := Crowd.stage?_eq_some.1 hreturned
    exact (unhurried hdelay hcalm now hfirst hrest hnew).slow _ hq
  refine ⟨htimesOut, fun {now turns} hquiet hfree token => ?_⟩
  obtain ⟨n, nanos, m, how, s, hafter, -⟩ := step_alone hfree token
  have hreturned : ((after p now turns).after conduct
      (comes (after p now turns).parties.length token n nanos m)).stage?
        (after p now turns).parties.length = some (.returned how) := by
    rw [hafter]
    exact Crowd.stage?_eq_some.2 ⟨token, List.getElem?_concat_length⟩
  obtain ⟨rfl, -⟩ := htimesOut hquiet (interrupt_notMem_comes _ _ _ _ _)
    (List.getElem?_eq_none (Nat.le_refl _)) (by rw [after_append]; exact hreturned)
  exact ⟨n, nanos, m, hreturned⟩

/-- Without a delay a step returns before any time has passed. -/
theorem not_waits_unthrottled (n : Nat) : ¬(unthrottled n).Waits := by
  intro h
  have hreturned : (after (unthrottled n) 0 ([] ++ [.enter 0, .advance 0])).stage? 0 =
      some (.returned .free) := rfl
  have hfirst : .aside .interrupt ∉ ([] : List Turn) := List.not_mem_nil
  have hfree := (h.timesOut hfirst (by simp) rfl hreturned).1
  cases hfree

/-! ## The strategies of configurations -/

section

variable (c : Config) (d : Duration)

/-- The strategy of a configuration in which a pause was set. -/
theorem ofPace_withFixedDelay :
    ofPace (c.withFixedDelay d).pace =
      if 2 ^ 64 ∣ d.wholeMillis then .unthrottled 0
      else .fixedDelay (.ofMillis d.toMillis) 0 false := by
  have hms := d.toNat_toMillis
  have hpos : d.toMillis > 0 ↔ ¬2 ^ 64 ∣ d.wholeMillis := by
    rw [gt_iff_lt, UInt64.lt_iff_toNat_lt, hms, Nat.dvd_iff_mod_eq_zero]
    exact Nat.pos_iff_ne_zero
  cases h : d.isZero with
  | true =>
    have hzero : d.wholeMillis = 0 := by rw [d.wholeMillis_eq, Duration.isZero_iff.1 h]
    rw [Config.pace_withFixedDelay_of_isZero c h, if_pos (by rw [hzero]; exact dvd_zero _)]
    rfl
  | false =>
    rw [Config.pace_withFixedDelay c h, ofPace]
    by_cases hdvd : 2 ^ 64 ∣ d.wholeMillis
    · rw [if_pos hdvd, if_neg fun hgt => hpos.1 hgt hdvd]
    · rw [if_neg hdvd, if_pos (hpos.2 hdvd)]

/-- When no step waits. -/
theorem ofPace_eq_unthrottled_iff :
    ofPace (c.withFixedDelay d).pace = .unthrottled 0 ↔ 2 ^ 64 ∣ d.wholeMillis := by
  rw [ofPace_withFixedDelay]
  split
  · next h => exact iff_of_true rfl h
  · next h => exact iff_of_false (fun heq => by cases heq) h

/-- What is left of a pause that is not dropped. -/
theorem ofPace_of_not_dvd {d : Duration} (h : ¬2 ^ 64 ∣ d.wholeMillis) :
    ∃ delay, ofPace (c.withFixedDelay d).pace = .fixedDelay delay 0 false ∧
      delay.isZero = false ∧ delay.toNanos = d.wholeMillis % 2 ^ 64 * 1000000 := by
  have hnanos := d.toNanos_ofMillis_toMillis
  refine ⟨.ofMillis d.toMillis, by rw [ofPace_withFixedDelay, if_neg h], ?_, hnanos⟩
  rw [Bool.eq_false_iff, ne_eq, Duration.isZero_iff, hnanos]
  rw [Nat.dvd_iff_mod_eq_zero] at h
  omega

theorem waits_iff :
    (ofPace (c.withFixedDelay d).pace).Waits ↔ ¬2 ^ 64 ∣ d.wholeMillis := by
  constructor
  · intro h hdvd
    rw [(ofPace_eq_unthrottled_iff c d).2 hdvd] at h
    exact not_waits_unthrottled 0 h
  · intro h
    obtain ⟨delay, hpace, hdelay, -⟩ := ofPace_of_not_dvd c h
    rw [hpace]
    exact waits_of_delay hdelay rfl

/-- A pause that was set is none just when it is empty, and else makes every step wait. -/
structure Honours : Prop where
  unthrottled_iff : ofPace (c.withFixedDelay d).pace = .unthrottled 0 ↔ d.isZero
  waits (h : d.isZero = false) : ∃ delay,
    ofPace (c.withFixedDelay d).pace = .fixedDelay delay 0 false ∧ delay.isZero = false ∧
      (ofPace (c.withFixedDelay d).pace).Waits

theorem honours_iff : Honours c d ↔ d.isZero ∨ ¬2 ^ 64 ∣ d.wholeMillis := by
  have hempty (h : d.isZero) : 2 ^ 64 ∣ d.wholeMillis := by
    rw [d.wholeMillis_eq, Duration.isZero_iff.1 h, Nat.zero_div]
    exact dvd_zero _
  have hdropped := ofPace_eq_unthrottled_iff c d
  constructor
  · intro h
    by_contra hnot
    obtain ⟨hnonzero, hdvd⟩ := not_or.1 hnot
    exact hnonzero (h.unthrottled_iff.1 (hdropped.2 (not_not.1 hdvd)))
  · rintro (hzero | hnot)
    · exact ⟨iff_of_true (hdropped.2 (hempty hzero)) hzero, fun h => by simp [h] at hzero⟩
    · obtain ⟨delay, hpace, hdelay, -⟩ := ofPace_of_not_dvd c hnot
      exact ⟨hdropped.trans (iff_of_false hnot fun hzero => hnot (hempty hzero)),
        fun _ => ⟨delay, hpace, hdelay, (waits_iff c d).2 hnot⟩⟩

/-- **A pause is dropped just when its milliseconds are none modulo `2 ^ 64`**: then no step waits,
and in all other cases there is a delay and every step waits. So what was asked for is done for
pauses that are empty or whose milliseconds are not none in this sense, and for no others. -/
theorem delay_honoured_iff :
    (ofPace (c.withFixedDelay d).pace = .unthrottled 0 ↔ 2 ^ 64 ∣ d.wholeMillis) ∧
      ((ofPace (c.withFixedDelay d).pace).Waits ↔ ¬2 ^ 64 ∣ d.wholeMillis) ∧
      (¬2 ^ 64 ∣ d.wholeMillis → ∃ delay,
        ofPace (c.withFixedDelay d).pace = .fixedDelay delay 0 false ∧ delay.isZero = false ∧
          delay.toNanos = d.wholeMillis % 2 ^ 64 * 1000000) ∧
      (Honours c d ↔ d.isZero ∨ ¬2 ^ 64 ∣ d.wholeMillis) :=
  ⟨ofPace_eq_unthrottled_iff c d, waits_iff c d, ofPace_of_not_dvd c, honours_iff c d⟩

end

/-- Half a millisecond, and `2 ^ 64` milliseconds: neither pause is empty, and both are dropped. -/
theorem half_millisecond_is_dropped :
    let half : Duration := ⟨0, 500000, by decide⟩
    let huge : Duration := ⟨18446744073709551, 616000000, by decide⟩
    half.isZero = false ∧ ofPace (({} : Config).withFixedDelay half).pace = .unthrottled 0 ∧
      huge.isZero = false ∧ ofPace (({} : Config).withFixedDelay huge).pace = .unthrottled 0 := by
  decide

end RuleScan.Pacer
