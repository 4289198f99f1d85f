import RuleScan.Plugin.Basic
import RuleScan.Proofs.Json.Printed

/-!
# Findings are read back

The documents of findings: each part that is empty may be left out, and each metadata entry may call
its key `ident` (`Findings.Documents`). From every one of them the same findings are read, since the
decoder of each record sets the fields that are there and fills in the others
(`Findings.reads_document`); the document that is printed is one of them. Main statement:
`documents_are_read_back`.
-/

namespace RuleScan

open Json

/-- A field that may be left out if what it holds is empty. -/
def Omittable (isEmpty : Prop) (field : String × Value) (fields : List (String × Value)) : Prop :=
  fields = [field] ∨ isEmpty ∧ fields = []

/-! ## The documents of findings -/

/-- The documents of a metadata entry. -/
def MetaEntry.Documents (m : MetaEntry) (v : Value) : Prop :=
  ∃ key ∈ ["key", "ident"], v = .record [(key, .text m.key), ("value", .text m.value)]

/-- The documents of a hit. -/
def Hit.Documents (h : Hit) (v : Value) : Prop :=
  ∃ fields, Omittable (h.decoded = false) ("xor_key", .bool h.decoded) fields ∧
    v = .record (("offset", .ofNat h.offset) :: ("length", .ofNat h.length) :: fields)

/-- The documents of a pattern with its hits. -/
def PatternHits.Documents (p : PatternHits) (v : Value) : Prop :=
  ∃ hits fields, List.Forall₂ Hit.Documents p.hits hits ∧
    Omittable (p.hits = []) ("matches", .list hits) fields ∧
    v = .record (("identifier", .text p.identifier) :: fields)

/-- The documents of a rule that holds. -/
def RuleMatch.Documents (r : RuleMatch) (v : Value) : Prop :=
  ∃ entries patterns fields fields', List.Forall₂ MetaEntry.Documents r.metadata entries ∧
    List.Forall₂ PatternHits.Documents r.patterns patterns ∧
    Omittable (r.metadata = []) ("metadata", .list entries) fields ∧
    Omittable (r.patterns = []) ("patterns", .list patterns) fields' ∧
    v = .record (("identifier", .text r.identifier) :: ("namespace", .text r.space) ::
      (fields ++ fields'))

/-- The outputs of modules as a document. -/
def outputsDocument (d : Dictionary) : Value := .record (d.entries.map fun e => (e.1, .text e.2))

/-- The documents of findings. -/
def Findings.Documents (f : Findings) (v : Value) : Prop :=
  ∃ rules fields fields', List.Forall₂ RuleMatch.Documents f.rules rules ∧
    Omittable (f.rules = []) ("matching_rules", .list rules) fields ∧
    Omittable (f.outputs = {}) ("module_outputs", outputsDocument f.outputs) fields' ∧
    v = .record (fields ++ fields')

/-! ## What fits into a document -/

/-- A hit with offsets of sixty-four bits. -/
def Hit.Fits (h : Hit) : Prop := h.offset < 2 ^ 64 ∧ h.length < 2 ^ 64

/-- A pattern whose hits fit. -/
def PatternHits.Fits (p : PatternHits) : Prop := ∀ h ∈ p.hits, h.Fits

/-- A rule whose hits fit. -/
def RuleMatch.Fits (r : RuleMatch) : Prop := ∀ p ∈ r.patterns, p.Fits

/-- Findings whose hits fit. -/
def Findings.Fits (f : Findings) : Prop := ∀ r ∈ f.rules, r.Fits

/-! ## Metadata -/

theorem MetaEntry.schema_local : MetaEntry.schema.LocalFields := by
  intro field hfield s
  simp only [schema, List.mem_cons, List.not_mem_nil, or_false] at hfield
  rcases hfield with rfl | rfl
  · exact FieldSchema.local_of local_text "key" true (·.key)
      (fun (s : Given) a => { s with key := some a }) s
  · exact FieldSchema.local_of local_text _ _ _ _ s

theorem MetaEntry.reads_document {m : MetaEntry} {v : Value} (h : m.Documents v) :
    Reads schema.decoder 1 v m := by
  obtain ⟨key, hkey, rfl⟩ := h
  refine Schema.reads_record schema_local fun depth _ => ⟨⟨some m.key, some m.value⟩, ?_, rfl⟩
  simp only [List.mem_cons, List.not_mem_nil, or_false] at hkey
  rcases hkey with rfl | rfl <;> rfl

/-! ## Hits -/

theorem Hit.schema_local : Hit.schema.LocalFields := by
  intro field hfield s
  simp only [schema, List.mem_cons, List.not_mem_nil, or_false] at hfield
  rcases hfield with rfl | rfl | rfl
  · exact FieldSchema.local_of (local_natural 64 "usize") _ _ _ _ s
  · exact FieldSchema.local_of (local_natural 64 "usize") _ _ _ _ s
  · exact FieldSchema.local_of local_bool _ _ _ _ s

theorem Hit.reads_document {h : Hit} (hfits : h.Fits) {v : Value} (hv : h.Documents v) :
    Reads schema.decoder 1 v h := by
  obtain ⟨fields, hdecoded, rfl⟩ := hv
  refine Schema.reads_record schema_local fun depth hdepth => ?_
  have hoffset := reads_natural "usize" hfits.1 depth hdepth
  have hlength := reads_natural "usize" hfits.2 depth hdepth
  rcases hdecoded with rfl | ⟨hfalse, rfl⟩
  · exact ⟨_, .cons rfl rfl hoffset (.cons rfl rfl hlength
      (.cons rfl rfl (reads_bool h.decoded depth hdepth) (.nil _))), rfl⟩
  · refine ⟨_, .cons rfl rfl hoffset (.cons rfl rfl hlength (.nil _)), ?_⟩
    obtain ⟨offset, length, decoded⟩ := h
    obtain rfl : decoded = false := hfalse
    rfl

/-! ## Patterns -/

theorem PatternHits.schema_local : PatternHits.schema.LocalFields := by
  intro field hfield s
  simp only [schema, List.mem_cons, List.not_mem_nil, or_false] at hfield
  rcases hfield with rfl | rfl
  · exact FieldSchema.local_of local_text _ _ _ _ s
  · exact FieldSchema.local_of (local_list (Schema.local_decoder Hit.schema_local)) _ _ _ _ s

theorem PatternHits.reads_document {p : PatternHits} (hfits : p.Fits) {v : Value}
    (hv : p.Documents v) : Reads schema.decoder 3 v p := by
  obtain ⟨hits, fields, hhits, hmatches, rfl⟩ := hv
  have hlist : Reads (list Hit.schema.decoder) 2 (.list hits) p.hits :=
    reads_documents (Schema.local_decoder Hit.schema_local) hhits
      fun h hh v hv => Hit.reads_document (hfits h hh) hv
  refine Schema.reads_record schema_local fun depth hdepth => ?_
  have hidentifier := reads_text p.identifier depth (by omega)
  rcases hmatches with rfl | ⟨hempty, rfl⟩
  · exact ⟨_, .cons rfl rfl hidentifier (.cons rfl rfl (hlist depth hdepth) (.nil _)), rfl⟩
  · refine ⟨_, .cons rfl rfl hidentifier (.nil _), ?_⟩
    obtain ⟨identifier, hits⟩ := p
    obtain rfl : hits = [] := hempty
    rfl

/-! ## Rules -/

theorem RuleMatch.schema_local : RuleMatch.schema.LocalFields := by
  intro field hfield s
  simp only [schema, List.mem_cons, List.not_mem_nil, or_false] at hfield
  rcases hfield with rfl | rfl | rfl | rfl
  · exact FieldSchema.local_of local_text _ _ _ _ s
  · exact FieldSchema.local_of local_text _ _ _ _ s
  · exact FieldSchema.local_of (local_list (Schema.local_decoder MetaEntry.schema_local)) _ _ _ _ s
  · exact FieldSchema.local_of (local_list (Schema.local_decoder PatternHits.schema_local))
      _ _ _ _ s

theorem RuleMatch.reads_document {r : RuleMatch} (hfits : r.Fits) {v : Value}
    (hv : r.Documents v) : Reads schema.decoder 5 v r := by
  obtain ⟨entries, patterns, fields, fields', hentries, hpatterns, hmetadata, hhits, rfl⟩ := hv
  have hentryList : Reads (list MetaEntry.schema.decoder) 2 (.list entries) r.metadata :=
    reads_documents (Schema.local_decoder MetaEntry.schema_local) hentries
      fun m _ v hv => MetaEntry.reads_document hv
  have hpatternList : Reads (list PatternHits.schema.decoder) 4 (.list patterns) r.patterns :=
    reads_documents (Schema.local_decoder PatternHits.schema_local) hpatterns
      fun p hp v hv => PatternHits.reads_document (hfits p hp) hv
  refine Schema.reads_record schema_local fun depth hdepth => ?_
  have hidentifier := reads_text r.identifier depth (by omega)
  have hspace := reads_text r.space depth (by omega)
  have hmetadataRead := hentryList depth (by omega)
  have hpatternsRead := hpatternList depth hdepth
  obtain ⟨identifier, space, metadata, ps⟩ := r
  rcases hmetadata with rfl | ⟨hempty, rfl⟩ <;> rcases hhits with rfl | ⟨hnone, rfl⟩
  · exact ⟨_, .cons rfl rfl hidentifier (.cons rfl rfl hspace (.cons rfl rfl hmetadataRead
      (.cons rfl rfl hpatternsRead (.nil _)))), rfl⟩
  · obtain rfl : ps = [] := hnone
    exact ⟨_, .cons rfl rfl hidentifier (.cons rfl rfl hspace (.cons rfl rfl hmetadataRead
      (.nil _))), rfl⟩
  · obtain rfl : metadata = [] := hempty
    exact ⟨_, .cons rfl rfl hidentifier (.cons rfl rfl hspace (.cons rfl rfl hpatternsRead
      (.nil _))), rfl⟩
  · obtain rfl : metadata = [] := hempty
    obtain rfl : ps = [] := hnone
    exact ⟨_, .cons rfl rfl hidentifier (.cons rfl rfl hspace (.nil _)), rfl⟩

/-! ## Findings -/

theorem Dictionary.insertEntry_last {k v : String} {l : List (String × String)}
    (h : ∀ e ∈ l, e.1 < k) : insertEntry k v l = l ++ [(k, v)] := by
  induction l with
  | nil => rfl
  | cons e rest ih =>
    have he : e.1 < k := h e List.mem_cons_self
    rw [insertEntry, if_neg (String.lt_asymm he), if_neg (fun hk => String.lt_irrefl _ (hk ▸ he)),
      ih fun e he => h e (List.mem_cons_of_mem _ he), List.cons_append]

theorem Dictionary.foldl_insert (l : List (String × String)) (d : Dictionary)
    (h : (d.entries ++ l).Pairwise (·.1 < ·.1)) :
    (l.foldl (fun d e => d.insert e.1 e.2) d).entries = d.entries ++ l := by
  induction l generalizing d with
  | nil => simp
  | cons e rest ih =>
    have hinsert : (d.insert e.1 e.2).entries = d.entries ++ [e] :=
      insertEntry_last fun x hx => (List.pairwise_append.1 h).2.2 x hx e List.mem_cons_self
    rw [List.foldl_cons, ih _ (by rw [hinsert]; simpa using h), hinsert]
    simp

/-- **A dictionary** is made of its entries. -/
theorem Dictionary.ofList_entries (d : Dictionary) : ofList d.entries = d := by
  have hentries : (ofList d.entries).entries = d.entries :=
    foldl_insert d.entries empty (by simpa [empty] using d.sorted)
  rcases hd : ofList d.entries with ⟨entries, sorted⟩
  rw [hd] at hentries
  cases hentries
  rfl

theorem Findings.schema_local : Findings.schema.LocalFields := by
  intro field hfield s
  simp only [schema, List.mem_cons, List.not_mem_nil, or_false] at hfield
  rcases hfield with rfl | rfl
  · exact FieldSchema.local_of (local_list (Schema.local_decoder RuleMatch.schema_local)) _ _ _ _ s
  · exact FieldSchema.local_of (local_map local_text) _ _ _ _ s

theorem Findings.finish_eq (rules : Option (List RuleMatch))
    (outputs : Option (List (String × String))) : Findings.schema.finish ⟨rules, outputs⟩ =
      .ok ⟨rules.getD [], Dictionary.ofList (outputs.getD [])⟩ := rfl

theorem Findings.reads_document {f : Findings} (hfits : f.Fits) {v : Value}
    (hv : f.Documents v) : Reads schema.decoder 7 v f := by
  obtain ⟨rules, fields, fields', hrules, hmatching, houtputs, rfl⟩ := hv
  have hruleList : Reads (list RuleMatch.schema.decoder) 6 (.list rules) f.rules :=
    reads_documents (Schema.local_decoder RuleMatch.schema_local) hrules
      fun r hr v hv => RuleMatch.reads_document (hfits r hr) hv
  refine Schema.reads_record schema_local fun depth hdepth => ?_
  have hrulesRead := hruleList depth hdepth
  have houtputsRead := reads_map f.outputs.entries depth (by omega)
  have hdictionary := f.outputs.ofList_entries
  obtain ⟨matching, outputs⟩ := f
  have hfinish (rules : Option (List RuleMatch)) :
      schema.finish ⟨rules, some outputs.entries⟩ = .ok ⟨rules.getD [], outputs⟩ := by
    rw [finish_eq, Option.getD_some, hdictionary]
  rcases hmatching with rfl | ⟨hempty, rfl⟩ <;> rcases houtputs with rfl | ⟨hnone, rfl⟩
  · exact ⟨_, .cons rfl rfl hrulesRead (.cons rfl rfl houtputsRead (.nil _)), hfinish _⟩
  · obtain rfl : outputs = {} := hnone
    exact ⟨_, .cons rfl rfl hrulesRead (.nil _), rfl⟩
  · obtain rfl : matching = [] := hempty
    exact ⟨_, .cons rfl rfl houtputsRead (.nil _), hfinish none⟩
  · obtain rfl : matching = [] := hempty
    obtain rfl : outputs = {} := hnone
    exact ⟨_, .nil _, rfl⟩

/-! ## Weighted findings and definitions -/

theorem reads_channel (c : Channel) : Reads Channel.decoder 0 c.toJson c := by
  intro depth _
  cases c <;> rfl

theorem WeightedFindings.schema_local : WeightedFindings.schema.LocalFields := by
  intro field hfield s
  simp only [schema, List.mem_cons, List.not_mem_nil, or_false] at hfield
  rcases hfield with rfl | rfl | rfl
  · exact FieldSchema.local_of (local_variant _) _ _ _ _ s
  · exact FieldSchema.local_of local_word32 _ _ _ _ s
  · exact FieldSchema.local_of (Schema.local_decoder Findings.schema_local) _ _ _ _ s

/-- Weighted findings are read out of the documents with any document of the findings. -/
theorem WeightedFindings.reads_document {w : WeightedFindings} (hfits : w.findings.Fits)
    {v : Value} (hv : w.findings.Documents v) :
    Reads schema.decoder 8 (.record [("channel", w.channel.toJson),
      ("weight", .ofNat w.weight.toNat), ("result", v)]) w := by
  refine Schema.reads_record schema_local fun depth hdepth => ?_
  have hchannel := reads_channel w.channel depth (by omega)
  have hweight := reads_word32 w.weight depth (by omega)
  have hresult := Findings.reads_document hfits hv depth hdepth
  exact ⟨_, .cons rfl rfl hchannel (.cons rfl rfl hweight (.cons rfl rfl hresult (.nil _))), rfl⟩

theorem Definition.schema_local : Definition.schema.LocalFields := by
  intro field hfield s
  simp only [schema, List.mem_cons, List.not_mem_nil, or_false] at hfield
  rcases hfield with rfl | rfl | rfl | rfl | rfl
  · exact FieldSchema.local_of local_text _ _ _ _ s
  · exact FieldSchema.local_of local_text _ _ _ _ s
  · exact FieldSchema.local_of (local_list (Schema.local_decoder MetaEntry.schema_local)) _ _ _ _ s
  · exact FieldSchema.local_of (local_list local_text) _ _ _ _ s
  · exact FieldSchema.local_of local_bool _ _ _ _ s

theorem forall₂_map {β γ : Type} {R : β → γ → Prop} {f : β → γ} (h : ∀ b, R b (f b)) (l : List β) :
    List.Forall₂ R l (l.map f) :=
  List.forall₂_map_right_iff.2 (List.forall₂_same.2 fun b _ => h b)

theorem MetaEntry.documents_toJson (m : MetaEntry) : m.Documents m.toJson :=
  ⟨"key", List.mem_cons_self, rfl⟩

theorem Hit.documents_toJson (h : Hit) : h.Documents h.toJson := ⟨_, .inl rfl, rfl⟩

theorem PatternHits.documents_toJson (p : PatternHits) : p.Documents p.toJson :=
  ⟨_, _, forall₂_map Hit.documents_toJson p.hits, .inl rfl, rfl⟩

theorem RuleMatch.documents_toJson (r : RuleMatch) : r.Documents r.toJson :=
  ⟨_, _, _, _, forall₂_map MetaEntry.documents_toJson r.metadata,
    forall₂_map PatternHits.documents_toJson r.patterns, .inl rfl, .inl rfl, rfl⟩

theorem Findings.documents_toJson (f : Findings) : f.Documents f.toJson :=
  ⟨_, _, _, forall₂_map RuleMatch.documents_toJson f.rules, .inl rfl, .inl rfl, rfl⟩

theorem Definition.reads_toJson (d : Definition) : Reads schema.decoder 3 d.toJson d := by
  have hentries : Reads (list MetaEntry.schema.decoder) 2 (.ofList MetaEntry.toJson d.metadata)
      d.metadata :=
    reads_documents (Schema.local_decoder MetaEntry.schema_local)
      (forall₂_map MetaEntry.documents_toJson d.metadata)
      fun m _ v hv => MetaEntry.reads_document hv
  have hpatterns : Reads (list text) 1 (.ofList .text d.patterns) d.patterns :=
    reads_documents local_text (forall₂_map (R := fun s v => v = .text s) (fun _ => rfl) d.patterns)
      fun s _ v hv => hv ▸ reads_text s
  refine Schema.reads_record schema_local fun depth hdepth => ?_
  have hidentifier := reads_text d.identifier depth (by omega)
  have hspace := reads_text d.space depth (by omega)
  have hentriesRead := hentries depth hdepth
  have hpatternsRead := hpatterns depth (by omega)
  have hall := reads_bool d.matchAll depth (by omega)
  exact ⟨_, .cons rfl rfl hidentifier (.cons rfl rfl hspace (.cons rfl rfl hentriesRead
    (.cons rfl rfl hpatternsRead (.cons rfl rfl hall (.nil _))))), rfl⟩

/-! ## Numbers in documents -/

theorem MetaEntry.whole_document {m : MetaEntry} {v : Value} (h : m.Documents v) : v.IsWhole := by
  obtain ⟨key, -, rfl⟩ := h
  exact ⟨trivial, trivial, trivial⟩

theorem Hit.whole_document {h : Hit} (hfits : h.Fits) {v : Value} (hv : h.Documents v) :
    v.IsWhole := by
  obtain ⟨fields, hdecoded, rfl⟩ := hv
  rcases hdecoded with rfl | ⟨-, rfl⟩
  · exact ⟨hfits.1, hfits.2, trivial, trivial⟩
  · exact ⟨hfits.1, hfits.2, trivial⟩

theorem PatternHits.whole_document {p : PatternHits} (hfits : p.Fits) {v : Value}
    (hv : p.Documents v) : v.IsWhole := by
  obtain ⟨hits, fields, hhits, hmatches, rfl⟩ := hv
  have hwhole := allWhole_documents hhits fun h hh v hv => Hit.whole_document (hfits h hh) hv
  rcases hmatches with rfl | ⟨-, rfl⟩
  · exact ⟨trivial, hwhole, trivial⟩
  · exact ⟨trivial, trivial⟩

theorem RuleMatch.whole_document {r : RuleMatch} (hfits : r.Fits) {v : Value}
    (hv : r.Documents v) : v.IsWhole := by
  obtain ⟨entries, patterns, fields, fields', hentries, hpatterns, hmetadata, hhits, rfl⟩ := hv
  have hentryList := allWhole_documents hentries fun m _ v hv => MetaEntry.whole_document hv
  have hpatternList := allWhole_documents hpatterns
    fun p hp v hv => PatternHits.whole_document (hfits p hp) hv
  rcases hmetadata with rfl | ⟨-, rfl⟩ <;> rcases hhits with rfl | ⟨-, rfl⟩
  · exact ⟨trivial, trivial, hentryList, hpatternList, trivial⟩
  · exact ⟨trivial, trivial, hentryList, trivial⟩
  · exact ⟨trivial, trivial, hpatternList, trivial⟩
  · exact ⟨trivial, trivial, trivial⟩

theorem whole_outputs (d : Dictionary) : (outputsDocument d).IsWhole := by
  have hentries (l : List (String × String)) :
      FieldsWhole (l.map fun e => (e.1, .text e.2)) := by
    induction l with
    | nil => exact trivial
    | cons e rest ih => exact ⟨trivial, ih⟩
  exact hentries d.entries

theorem Findings.whole_document {f : Findings} (hfits : f.Fits) {v : Value}
    (hv : f.Documents v) : v.IsWhole := by
  obtain ⟨rules, fields, fields', hrules, hmatching, houtputs, rfl⟩ := hv
  have hruleList := allWhole_documents hrules
    fun r hr v hv => RuleMatch.whole_document (hfits r hr) hv
  have houtputList := whole_outputs f.outputs
  rcases hmatching with rfl | ⟨-, rfl⟩ <;> rcases houtputs with rfl | ⟨-, rfl⟩
  · exact ⟨hruleList, houtputList, trivial⟩
  · exact ⟨hruleList, trivial⟩
  · exact ⟨houtputList, trivial⟩
  · exact trivial

theorem Definition.whole_toJson (d : Definition) : d.toJson.IsWhole := by
  have hentries := allWhole_documents (forall₂_map MetaEntry.documents_toJson d.metadata)
    fun m _ v hv => MetaEntry.whole_document hv
  have hpatterns := allWhole_documents
    (forall₂_map (R := fun s v => v = .text s) (fun _ => rfl) d.patterns)
    fun s _ v hv => hv ▸ (trivial : (Value.text s).IsWhole)
  exact ⟨trivial, trivial, hentries, hpatterns, trivial, trivial⟩

/-! ## External values -/

/-- A value of one token is decoded as what its JSON value stands for. -/
theorem ExternalValue.decodeText_eq {x : ExternalValue} (token : Token)
    (hwhole : x.toJson.IsWhole) (htokens : x.toJson.tree.tokens = [token])
    (hread : ExternalValue.decoder maxDepth [token] = .ok (x, [])) :
    decodeText decoder x.toJson.compact = .ok x := by
  rw [decodeText, lex_compact hwhole, htokens, hread]
  rfl

theorem ExternalValue.decodeText_integer (i : Int64) :
    decodeText decoder (integer i).toJson.compact = .ok (.integer i) := by
  have hlow : -2 ^ 63 ≤ i.toInt := i.le_toInt
  have hhigh : i.toInt < 2 ^ 63 := i.toInt_lt
  by_cases hneg : i.toInt < 0
  · have hjson : (integer i).toJson = .number (.negative i.toInt) := if_pos hneg
    refine decodeText_eq (.number (.ok (.negative i.toInt)) (.ok ())) ?_ ?_ ?_
    · rw [hjson]
      exact ⟨hlow, hneg⟩
    · rw [hjson]
      rfl
    · have hback : Int64.ofInt i.toInt = i := Int64.ofInt_toInt i
      simp [decoder, value, ofJson?, hback, bind, Except.bind]
  · have hjson : (integer i).toJson = .ofNat i.toInt.toNat := if_neg hneg
    have hnat : (i.toInt.toNat : Int) = i.toInt := Int.toNat_of_nonneg (by omega)
    refine decodeText_eq (.number (.ok (.natural i.toInt.toNat)) (.ok ())) ?_ ?_ ?_
    · rw [hjson]
      exact whole_ofNat (by omega)
    · rw [hjson]
      rfl
    · have hfits : i.toInt.toNat < Nat.pow 2 63 := by
        rw [show Nat.pow 2 63 = 2 ^ 63 from rfl]
        omega
      have hback : Int64.ofInt i.toInt = i := Int64.ofInt_toInt i
      simp only [decoder, value, ofJson?, hfits, hnat, hback, bind, Except.bind, if_true]

/-! ## Reading back -/

/-- **Documents are read back.** What is decoded from the printed document of a metadata entry, a
hit, a pattern, a rule, findings, weighted findings, a definition, or a value that is not real, is
what was printed; offsets and lengths must have sixty-four bits. And findings are decoded from each
of their documents, which may call the keys of metadata entries `ident` and leave out what is empty.
-/
theorem documents_are_read_back :
    (∀ m : MetaEntry, decodeText MetaEntry.schema.decoder m.toJson.compact = .ok m) ∧
    (∀ h : Hit, h.Fits → decodeText Hit.schema.decoder h.toJson.compact = .ok h) ∧
    (∀ p : PatternHits, p.Fits → decodeText PatternHits.schema.decoder p.toJson.compact = .ok p) ∧
    (∀ r : RuleMatch, r.Fits → decodeText RuleMatch.schema.decoder r.toJson.compact = .ok r) ∧
    (∀ f : Findings, f.Fits → Findings.ofText f.toText = .ok f) ∧
    (∀ w : WeightedFindings, w.findings.Fits →
      decodeText WeightedFindings.schema.decoder w.toJson.compact = .ok w) ∧
    (∀ d : Definition, decodeText Definition.schema.decoder d.toJson.compact = .ok d) ∧
    (∀ b, decodeText ExternalValue.decoder (ExternalValue.bool b).toJson.compact = .ok (.bool b)) ∧
    (∀ i, decodeText ExternalValue.decoder (ExternalValue.integer i).toJson.compact =
      .ok (.integer i)) ∧
    (∀ s, decodeText ExternalValue.decoder (ExternalValue.text s).toJson.compact =
      .ok (.text s)) ∧
    ∀ (f : Findings) (v : Value), f.Fits → f.Documents v → Findings.ofText v.compact = .ok f := by
  have hfindings (f : Findings) (v : Value) (hfits : f.Fits) (hv : f.Documents v) :
      Findings.ofText v.compact = .ok f :=
    decodeText_compact (Schema.local_decoder Findings.schema_local)
      (Findings.reads_document hfits hv) (by decide) (Findings.whole_document hfits hv)
  refine ⟨fun m => ?_, fun h hfits => ?_, fun p hfits => ?_, fun r hfits => ?_,
    fun f hfits => hfindings f f.toJson hfits f.documents_toJson, fun w hfits => ?_, fun d => ?_,
    fun b => ?_, ExternalValue.decodeText_integer, fun s => ?_, hfindings⟩
  · exact decodeText_compact (Schema.local_decoder MetaEntry.schema_local)
      (MetaEntry.reads_document m.documents_toJson) (by decide)
      (MetaEntry.whole_document m.documents_toJson)
  · exact decodeText_compact (Schema.local_decoder Hit.schema_local)
      (Hit.reads_document hfits h.documents_toJson) (by decide)
      (Hit.whole_document hfits h.documents_toJson)
  · exact decodeText_compact (Schema.local_decoder PatternHits.schema_local)
      (PatternHits.reads_document hfits p.documents_toJson) (by decide)
      (PatternHits.whole_document hfits p.documents_toJson)
  · exact decodeText_compact (Schema.local_decoder RuleMatch.schema_local)
      (RuleMatch.reads_document hfits r.documents_toJson) (by decide)
      (RuleMatch.whole_document hfits r.documents_toJson)
  · have hwhole := Findings.whole_document hfits w.findings.documents_toJson
    have hweight : w.weight.toNat < 2 ^ 64 := Nat.lt_trans w.weight.toNat_lt (by decide)
    exact decodeText_compact (Schema.local_decoder WeightedFindings.schema_local)
      (WeightedFindings.reads_document hfits w.findings.documents_toJson) (by decide)
      ⟨trivial, hweight, hwhole, trivial⟩
  · exact decodeText_compact (Schema.local_decoder Definition.schema_local) d.reads_toJson
      (by decide) d.whole_toJson
  · cases b
    · exact ExternalValue.decodeText_eq _ trivial rfl rfl
    · exact ExternalValue.decodeText_eq _ trivial rfl rfl
  · exact ExternalValue.decodeText_eq _ trivial rfl rfl

/-- A hit at the last offset. -/
def lastHit : Hit := { offset := 18446744073709551615, length := 0 }

/-- Findings with strings that need escapes. -/
def quotedFindings : Findings where
  rules :=
    [{ identifier := "\"\\\n", space := "", metadata := [⟨"\x01", "é"⟩],
       patterns := [⟨"$0", [lastHit]⟩] }]

/-- A document of these findings that leaves out what it can. -/
def sparseDocument : Value :=
  .record [("matching_rules", .list [.record [("identifier", .text "\"\\\n"),
    ("namespace", .text ""),
    ("metadata", .list [.record [("ident", .text "\x01"), ("value", .text "é")]]),
    ("patterns", .list [.record [("identifier", .text "$0"),
      ("matches", .list [.record [("offset", .ofNat lastHit.offset), ("length", .ofNat 0)]])]])]])]

theorem sparseDocument_is_read_back :
    decodeText Hit.schema.decoder lastHit.toJson.compact = .ok lastHit ∧
      Findings.ofText sparseDocument.compact = .ok quotedFindings := by
  have hhit : lastHit.Fits := by
    constructor <;> decide
  have hfits : quotedFindings.Fits := by
    simp [quotedFindings, Findings.Fits, RuleMatch.Fits, PatternHits.Fits, hhit]
  have hhits : List.Forall₂ Hit.Documents [lastHit]
      [.record [("offset", .ofNat lastHit.offset), ("length", .ofNat 0)]] :=
    .cons ⟨[], .inr ⟨rfl, rfl⟩, rfl⟩ .nil
  have hpatterns := List.Forall₂.cons (R := PatternHits.Documents)
    (⟨_, _, hhits, .inl rfl, rfl⟩ : PatternHits.Documents ⟨"$0", [lastHit]⟩ _) .nil
  have hentries := List.Forall₂.cons (R := MetaEntry.Documents)
    (⟨"ident", by decide, rfl⟩ : MetaEntry.Documents ⟨"\x01", "é"⟩ _) .nil
  have hdocument : quotedFindings.Documents sparseDocument :=
    ⟨_, _, _, .cons ⟨_, _, _, _, hentries, hpatterns, .inl rfl, .inl rfl, rfl⟩ .nil, .inl rfl,
      .inr ⟨rfl, rfl⟩, rfl⟩
  obtain ⟨-, hhits, -, -, -, -, -, -, -, -, hdocuments⟩ := documents_are_read_back
  exact ⟨hhits lastHit hhit, hdocuments quotedFindings sparseDocument hfits hdocument⟩

end RuleScan
