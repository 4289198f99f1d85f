import RuleScan.Config
import RuleScan.Proofs.Json.Members

/-!
# Paces in any order

The record of a pace names its kind, before or after what else it holds: all other members are kept
whole until the kind is known (`Pace.take`), and then looked through for the delay. So a pace is
read from its members in any order (`Pace.onTree_arranged`), and a kind or a delay that is there
twice is refused (`Pace.onTree_duplicate_kind`, `Pace.onTree_duplicate_delay`).
-/

namespace RuleScan

open Json

namespace Pace

/-! ## Paces on trees -/

/-- What is made of a member of the record of a pace. -/
def take (depth : Nat) (name : String) (t : Tree) (s : Given) : Except Fault Given :=
  if name = "kind" then
    if s.delayed.isSome then .error (.duplicateField "kind")
    else (onTree (named kinds) depth t).map fun delayed => { s with delayed := some delayed }
  else (onTree value depth t).map fun v => { s with others := (name, v) :: s.others }

/-- The pace, once all members were taken. -/
def finish (s : Given) : Except Fault Pace :=
  match s.delayed with
  | none => .error (.missingField "kind")
  | some false => .ok .unthrottled
  | some true => delayOf s.others.reverse

theorem readField_tokens (depth : Nat) (name : String) (s : Given) (t : Tree) (rest : List Token) :
    readField depth name s (.colon :: (t.tokens ++ rest)) =
      (take depth name t s).map (·, rest) := by
  rw [readField, take]
  split
  · split
    · rfl
    · simp only [Json.colon, bind, Except.bind, local_named kinds depth t rest]
      cases onTree (named kinds) depth t <;> rfl
  · simp only [Json.colon, bind, Except.bind, local_value depth t rest]
    cases onTree value depth t <;> rfl

/-- **A record of a pace** is read member by member, one level deeper. -/
theorem onTree_record (depth : Nat) (ms : List (Except Fault String × Tree)) :
    (∀ rest, decoder depth ((Tree.record ms).tokens ++ rest) =
      ((deeper depth).bind fun depth => (takeAll (take depth) {} ms).bind finish).map (·, rest)) ∧
    onTree decoder depth (.record ms) =
      (deeper depth).bind fun depth => (takeAll (take depth) {} ms).bind finish := by
  have hall (rest : List Token) : decoder depth ((Tree.record ms).tokens ++ rest) =
      ((deeper depth).bind fun depth =>
        (takeAll (take depth) {} ms).bind finish).map (·, rest) := by
    have hfuel : ms.length < (memberTokens true ms ++ .recordEnd :: rest).length + 1 := by
      have := length_le_memberTokens true ms
      simp only [List.length_append, List.length_cons]
      omega
    rw [Tree.tokens, List.cons_append, List.append_assoc, List.singleton_append, decoder]
    rcases deeper depth with e | depth
    · rfl
    · simp only [bind, Except.bind]
      rw [fields_tokens (readField_tokens depth) ms true {} rest hfuel]
      rcases takeAll (take depth) {} ms with e | s
      · rfl
      · obtain ⟨delayed, others⟩ := s
        simp only [Except.map, finish]
        rcases delayed with _ | _ | _
        · rfl
        · rfl
        · cases delayOf others.reverse <;> rfl
  exact ⟨hall, onTree_of_forall hall⟩

/-- A pace out of a list: its kind, and what else it holds. -/
theorem decoder_list (depth : Nat) (ts : List Tree) : LocalOn decoder depth (.list ts) := by
  rcases hdepth : deeper depth with e | inner
  · refine ⟨.error e, fun rest => ?_⟩
    simp [Tree.tokens, decoder, hdepth, bind, Except.bind, Except.map]
  cases ts with
  | nil =>
    refine ⟨.error (.missingField "kind"), fun rest => ?_⟩
    simp [Tree.tokens, itemTokens, decoder, hdepth, nextItem, bind, Except.bind, Except.map]
  | cons t ts =>
    refine ⟨(onTree (named kinds) inner t).bind fun delayed =>
      (ts.mapM (onTree value inner)).bind (ofItems delayed), fun rest => ?_⟩
    have hfuel : ts.length < (itemTokens false ts ++ .listEnd :: rest).length + 1 := by
      have := length_le_itemTokens false ts
      simp only [List.length_append, List.length_cons]
      omega
    rw [Tree.tokens, List.cons_append, List.append_assoc, List.singleton_append, decoder, hdepth]
    simp only [bind, Except.bind]
    rw [nextItem_tokens]
    dsimp only
    rw [local_named kinds inner t]
    rcases onTree (named kinds) inner t with e | delayed
    · rfl
    · simp only [Except.map]
      rw [items_tokens (local_value inner) ts false [] rest hfuel]
      rcases ts.mapM (onTree value inner) with e | vs
      · rfl
      · simp only [Except.map, List.reverse_nil, List.nil_append]

theorem local_decoder : Local decoder := by
  refine fun depth => localAt_of_forall fun t => ?_
  cases t with
  | word w => cases w <;> exact ⟨.error _, fun _ => rfl⟩
  | number read => rcases read with e | n | i | x <;> exact ⟨.error _, fun _ => rfl⟩
  | text read => cases read <;> exact ⟨.error _, fun _ => rfl⟩
  | record ms => exact ⟨_, fun rest => (onTree_record depth ms).1 rest⟩
  | list ts => exact decoder_list depth ts

/-! ## Members in any order -/

theorem onTree_members {depth inner : Nat} (h : deeper depth = .ok inner)
    (ms : List (String × Tree)) :
    onTree decoder depth (.ofMembers ms) = (takeMembers (take inner) {} ms).bind finish := by
  rw [Tree.ofMembers, (onTree_record depth _).2, h]
  rfl

theorem onTree_value_natural (depth n : Nat) :
    onTree value depth (Value.ofNat n).tree = .ok (.ofNat n) := by
  cases depth <;> rfl

/-- **A pace** is read out of its members in any order. -/
theorem onTree_arranged {p : Pace} {fields : List (String × Value)}
    (hfields : p.toJson = .record fields) {ms : List (String × Tree)}
    (hms : ms.Perm (fieldMembers fields)) {depth : Nat} (h : 1 < depth) :
    onTree decoder depth (.ofMembers ms) = .ok p := by
  obtain ⟨inner, hinner, -⟩ := deeper_of_lt h
  rw [onTree_members hinner]
  cases p with
  | unthrottled =>
    obtain rfl := Value.record.inj hfields
    obtain rfl := List.perm_singleton.1 hms
    rfl
  | fixedDelay ms =>
    obtain rfl := Value.record.inj hfields
    have hvalue := onTree_value_natural inner ms.toNat
    have hnatural : (Value.ofNat ms.toNat).natural 64 "u64" = .ok ms.toNat := if_pos ms.toNat_lt
    have hword : ms.toNat.toUInt64 = ms := by simp
    have hfinish : finish ⟨some true, [("delay_ms", .ofNat ms.toNat)]⟩ = .ok (.fixedDelay ms) := by
      simp [finish, delayOf, delayOf.go, hnatural, hword, bind, Except.bind]
    have hkind (s : Given) (hs : s.delayed = none) :
        take inner "kind" (Value.text "fixed_delay").tree s =
          .ok { s with delayed := some true } := by
      rw [take, if_pos rfl, hs]
      rfl
    have hdelay (s : Given) : take inner "delay_ms" (Value.ofNat ms.toNat).tree s =
        .ok { s with others := ("delay_ms", .ofNat ms.toNat) :: s.others } := by
      rw [take, if_neg (by decide), hvalue]
      rfl
    -- the kind comes first or last
    rcases List.perm_pair.1 hms with rfl | rfl
    · rw [takeMembers_cons, hkind _ rfl]
      simp only [Except.bind]
      rw [takeMembers_cons, hdelay]
      exact hfinish
    · rw [takeMembers_cons, hdelay]
      simp only [Except.bind]
      rw [takeMembers_cons, hkind _ rfl]
      exact hfinish

/-! ## Repeated members -/

/-- A member that was taken: either it named the kind, which was not known, or it is kept. -/
theorem take_cases {depth : Nat} {name : String} {t : Tree} {s s' : Given}
    (h : take depth name t s = .ok s') :
    (name = "kind" ∧ s.delayed = none ∧ ∃ delayed, onTree (named kinds) depth t = .ok delayed ∧
      s' = { s with delayed := some delayed }) ∨
    (name ≠ "kind" ∧ ∃ v, s' = { s with others := (name, v) :: s.others }) := by
  rw [take] at h
  split at h
  next hname =>
    split at h
    next => cases h
    next hfree =>
      rcases hread : onTree (named kinds) depth t with e | delayed
      · rw [hread] at h
        cases h
      · rw [hread] at h
        exact .inl ⟨hname, by simpa using hfree, delayed, rfl, (Except.ok.inj h).symm⟩
  next hname =>
    rcases hread : onTree value depth t with e | v
    · rw [hread] at h
      cases h
    · rw [hread] at h
      exact .inr ⟨hname, v, (Except.ok.inj h).symm⟩

theorem guards_kind (depth : Nat) : Guards (take depth) "kind" (·.delayed.isSome) where
  own t s s' htake := by
    rcases take_cases htake with ⟨-, hfree, delayed, -, rfl⟩ | ⟨hname, -⟩
    · exact ⟨by simp [hfree], rfl⟩
    · exact absurd rfl hname
  stays name t s s' htake hset := by
    rcases take_cases htake with ⟨-, hfree, -⟩ | ⟨-, v, rfl⟩
    · simp [hfree] at hset
    · exact hset

/-- Members that are refused at every depth. -/
theorem onTree_refused {ms : List (String × Tree)}
    (h : ∀ depth, ∃ e, (takeMembers (take depth) {} ms).bind finish = .error e) (depth : Nat) :
    ∃ e, onTree decoder depth (.ofMembers ms) = .error e := by
  rcases hdepth : deeper depth with e | inner
  · refine ⟨e, ?_⟩
    rw [Tree.ofMembers, (onTree_record depth _).2, hdepth]
    rfl
  · rw [onTree_members hdepth]
    exact h inner

/-- **A pace with two kinds** is refused. -/
theorem onTree_duplicate_kind {ms : List (String × Tree)}
    (hdup : List.Duplicate "kind" (ms.map (·.1))) (depth : Nat) :
    ∃ e, onTree decoder depth (.ofMembers ms) = .error e := by
  refine onTree_refused (fun inner => ?_) depth
  obtain ⟨e, he⟩ := takeMembers_of_duplicate (guards_kind inner) {} hdup
  exact ⟨e, by rw [he]; rfl⟩

/-! ### The delay -/

theorem go_of_mem {l : List (String × Value)} (hmem : "delay_ms" ∈ l.map (·.1)) (ms : Nat) :
    ∃ e, delayOf.go (some ms) l = .error e := by
  induction l with
  | nil => cases hmem
  | cons field l ih =>
    obtain ⟨name, v⟩ := field
    rw [delayOf.go]
    split
    next => exact ⟨.duplicateField "delay_ms", rfl⟩
    next hname =>
      rcases List.mem_cons.1 hmem with heq | hmem
      · exact absurd heq.symm hname
      · exact ih hmem

theorem delayOf_duplicate {l : List (String × Value)}
    (hdup : List.Duplicate "delay_ms" (l.map (·.1))) : ∃ e, delayOf l = .error e := by
  rw [delayOf]
  induction l with
  | nil => cases hdup
  | cons field l ih =>
    obtain ⟨name, v⟩ := field
    rw [delayOf.go]
    split
    next hname =>
      rw [if_neg (by decide)]
      rcases v.natural 64 "u64" with e | ms
      · exact ⟨e, rfl⟩
      · rcases List.duplicate_cons_iff.1 hdup with ⟨-, hmem⟩ | hdup
        · exact go_of_mem hmem ms
        · exact go_of_mem hdup.mem ms
    next hname =>
      rcases List.duplicate_cons_iff.1 hdup with ⟨heq, -⟩ | hdup
      · exact absurd heq hname
      · exact ih hdup

/-- The names of the members that are kept. -/
theorem others_takeMembers {depth : Nat} {ms : List (String × Tree)} {s s' : Given}
    (h : takeMembers (take depth) s ms = .ok s') :
    s'.others.reverse.map (·.1) =
      s.others.reverse.map (·.1) ++ (ms.map (·.1)).filter (· ≠ "kind") := by
  induction ms generalizing s with
  | nil =>
    obtain rfl := Except.ok.inj h
    simp
  | cons m ms ih =>
    obtain ⟨name, t⟩ := m
    rw [takeMembers_cons] at h
    rcases htake : take depth name t s with e | s₁
    · rw [htake] at h
      cases h
    · rw [htake] at h
      have hrest := ih h
      rcases take_cases htake with ⟨rfl, -, delayed, -, rfl⟩ | ⟨hname, v, rfl⟩
      · simpa using hrest
      · simpa [hname] using hrest

/-- The kind, once it is known. -/
theorem delayed_takeMembers {depth : Nat} {ms : List (String × Tree)} {s s' : Given}
    (h : takeMembers (take depth) s ms = .ok s')
    (hkind : s.delayed = some true ∨ ("kind", .text (.ok "fixed_delay")) ∈ ms) :
    s'.delayed = some true := by
  induction ms generalizing s with
  | nil =>
    obtain rfl := Except.ok.inj h
    simpa using hkind
  | cons m ms ih =>
    obtain ⟨name, t⟩ := m
    rw [takeMembers_cons] at h
    rcases htake : take depth name t s with e | s₁
    · rw [htake] at h
      cases h
    · rw [htake] at h
      refine ih h ?_
      rcases take_cases htake with ⟨rfl, hfree, delayed, hread, rfl⟩ | ⟨hname, v, rfl⟩
      · rcases hkind with hset | hmem
        · rw [hfree] at hset
          cases hset
        · rcases List.mem_cons.1 hmem with heq | hmem
          · obtain ⟨-, rfl⟩ := Prod.mk.inj heq
            exact .inl (congrArg some (Except.ok.inj hread).symm)
          · exact .inr hmem
      · refine hkind.imp id fun hmem => ?_
        rcases List.mem_cons.1 hmem with heq | hmem
        · exact absurd (Prod.mk.inj heq).1.symm hname
        · exact hmem

/-- **A fixed delay with two delays** is refused. -/
theorem onTree_duplicate_delay {ms : List (String × Tree)}
    (hkind : ("kind", .text (.ok "fixed_delay")) ∈ ms)
    (hdup : List.Duplicate "delay_ms" (ms.map (·.1))) (depth : Nat) :
    ∃ e, onTree decoder depth (.ofMembers ms) = .error e := by
  refine onTree_refused (fun inner => ?_) depth
  rcases htake : takeMembers (take inner) {} ms with e | s
  · exact ⟨e, rfl⟩
  · -- the kind is that of a fixed delay, so both delays are looked at
    have hkept : List.Duplicate "delay_ms" (s.others.reverse.map (·.1)) := by
      rw [others_takeMembers htake, List.duplicate_iff_sublist]
      exact (List.duplicate_iff_sublist.1 hdup).filter (· ≠ "kind")
    obtain ⟨e, he⟩ := delayOf_duplicate hkept
    refine ⟨e, ?_⟩
    simp only [Except.bind, finish, delayed_takeMembers htake (.inr hkind), he]

end Pace

end RuleScan
