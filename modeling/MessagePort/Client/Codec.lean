import MessagePort.Client.Utils

/-!
# The bundle codec

Encoding drops the entries that are not strings by their type. Decoding drops
them because no text can be taken from them, and a repeated key as well once
text was stored under it.
-/

namespace MessagePort.Client

/-- A value that the encoder keeps. -/
def BundleValue.isString : BundleValue → Bool
  | .string _ => true
  | .other _ _ => false

/-- The text of the first entry of a key that has text. -/
def firstString (data : VariantMap) (key : String) : Option String :=
  data.findSome? fun entry => if entry.1 = key then entry.2.getString else none

theorem firstString_cons (entry : String × Variant) (rest : VariantMap) (key : String) :
    firstString (entry :: rest) key =
      if entry.1 = key then entry.2.getString.or (firstString rest key)
      else firstString rest key := by
  simp only [firstString, List.findSome?_cons]
  by_cases same : entry.1 = key
  · simp only [if_pos same]
    cases entry.2.getString <;> rfl
  · simp only [if_neg same]

/-! ## Entries -/

/-- What one entry of a bundle is encoded to. -/
def encodeEntry : String × BundleValue → Option (String × Variant)
  | (key, .string value) => some (key, .string value)
  | (_, .other _ _) => none

/-- What one entry of an `a{sv}` value is decoded to, under a new key. -/
def decodeEntry (entry : String × Variant) : Option (String × BundleValue) :=
  entry.2.getString.map fun text => (entry.1, .string text)

theorem bundleToVariantMap_some (bundle : Bundle) :
    bundleToVariantMap (some bundle) = bundle.entries.filterMap encodeEntry := by
  unfold bundleToVariantMap
  congr 1

/-- Encoding one entry keeps its key. -/
theorem encodeEntry_key {entry : String × BundleValue} {encoded : String × Variant}
    (kept : encodeEntry entry = some encoded) : encoded.1 = entry.1 := by
  obtain ⟨key, value⟩ := entry
  cases value with
  | string text =>
      obtain rfl := Option.some.inj kept
      rfl
  | other => cases kept

/-- Decoding an encoded entry gives it back if it is a string. -/
theorem encodeEntry_bind_decodeEntry (entry : String × BundleValue) :
    (encodeEntry entry).bind decodeEntry = if entry.2.isString then some entry else none := by
  obtain ⟨key, value⟩ := entry
  cases value <;> rfl

/-- Encoding a decoded entry gives back its text as a value of type `s`. -/
theorem decodeEntry_bind_encodeEntry (entry : String × Variant) :
    (decodeEntry entry).bind encodeEntry = entry.2.getString.map fun text =>
      (entry.1, .string text) := by
  simp only [decodeEntry]
  cases entry.2.getString <;> rfl

/-- Encoding the entries of one key is taking those of the key from the encoding. -/
theorem filterMap_encodeEntry_filter (entries : List (String × BundleValue)) (key : String) :
    (entries.filterMap encodeEntry).filter (·.1 = key) =
      (entries.filter (·.1 = key)).filterMap encodeEntry := by
  induction entries with
  | nil => rfl
  | cons entry rest ih =>
      cases encoded : encodeEntry entry with
      | none =>
          rw [List.filterMap_cons_none encoded, ih]
          by_cases same : entry.1 = key <;> simp [same, encoded]
      | some kept =>
          rw [List.filterMap_cons_some encoded]
          by_cases same : entry.1 = key <;> simp [encodeEntry_key encoded, same, encoded, ih]

/-- The keys of an encoding are distinct as those of the bundle are. -/
theorem encoded_distinct (bundle : Bundle) :
    ((bundleToVariantMap (some bundle)).map Prod.fst).Nodup := by
  have keys (entries : List (String × BundleValue)) :
      ((entries.filterMap encodeEntry).map Prod.fst).Sublist (entries.map Prod.fst) := by
    induction entries with
    | nil => exact .slnil
    | cons entry rest ih =>
        cases encoded : encodeEntry entry with
        | none =>
            rw [List.filterMap_cons_none encoded]
            exact ih.cons _
        | some kept =>
            rw [List.filterMap_cons_some encoded, List.map_cons, encodeEntry_key encoded]
            exact ih.cons_cons _
  rw [bundleToVariantMap_some]
  exact bundle.distinct.sublist (keys bundle.entries)

/-! ## Decoding a list of entries -/

/-- One step of the loop in `bundle_from_variant_map`. -/
def Bundle.addEntry (bundle : Bundle) (entry : String × Variant) : Bundle :=
  bundle.add entry.1 entry.2.getString

theorem bundleFromVariantMap_eq (data : VariantMap) :
    bundleFromVariantMap data = data.foldl Bundle.addEntry .create := rfl

namespace Bundle

/-- Under a new key the decoded entry is appended, if there is one. -/
theorem addEntry_fresh {bundle : Bundle} {entry : String × Variant} (named : entry.1 ≠ "")
    (fresh : entry.1 ∉ bundle.entries.map Prod.fst) :
    (bundle.addEntry entry).entries = bundle.entries ++ (decodeEntry entry).toList := by
  simp only [addEntry, add, decodeEntry]
  cases entry.2.getString with
  | none => simp
  | some text => simp only [dif_pos (And.intro named fresh), Option.map_some, Option.toList_some]

/-- Under a key that is taken nothing changes. -/
theorem addEntry_taken {bundle : Bundle} {entry : String × Variant}
    (taken : entry.1 ∈ bundle.entries.map Prod.fst) : bundle.addEntry entry = bundle := by
  simp only [addEntry, add]
  cases entry.2.getString with
  | none => rfl
  | some text => exact dif_neg fun fresh => fresh.2 taken

/-- Entries under new distinct keys are decoded one by one. -/
theorem addAll_fresh {data : VariantMap} {bundle : Bundle} (named : "" ∉ data.map Prod.fst)
    (distinct : (data.map Prod.fst).Nodup)
    (fresh : ∀ key ∈ data.map Prod.fst, key ∉ bundle.entries.map Prod.fst) :
    (data.foldl addEntry bundle).entries = bundle.entries ++ data.filterMap decodeEntry := by
  induction data generalizing bundle with
  | nil => simp
  | cons entry rest ih =>
      rw [List.map_cons, List.nodup_cons] at distinct
      rw [List.map_cons, List.mem_cons, not_or] at named
      rw [List.map_cons, List.forall_mem_cons] at fresh
      have here := addEntry_fresh (Ne.symm named.1) fresh.1
      rw [List.foldl_cons, ih named.2 distinct.2, here, List.append_assoc]
      · cases decoded : decodeEntry entry <;> simp [decoded]
      · intro key later
        rw [here, List.map_append, List.mem_append, not_or]
        refine ⟨fresh.2 key later, ?_⟩
        -- the only key that is new was not to come again
        simp only [decodeEntry]
        cases entry.2.getString with
        | none => simp
        | some text =>
            simp only [Option.map_some, Option.toList_some, List.map_cons, List.map_nil,
              List.mem_singleton]
            rintro rfl
            exact distinct.1 later

/-- No entry is stored under a key that is not taken. -/
theorem filter_eq_nil {bundle : Bundle} {key : String} (fresh : key ∉ bundle.entries.map Prod.fst) :
    bundle.entries.filter (·.1 = key) = [] := by
  rw [List.filter_eq_nil_iff]
  intro entry member same
  exact fresh (List.mem_map.mpr ⟨entry, member, by simpa using same⟩)

/-- Of each new key, the first entry with text is decoded and no other. -/
theorem addAll_filter {data : VariantMap} {bundle : Bundle} (named : "" ∉ data.map Prod.fst)
    (key : String) : (data.foldl addEntry bundle).entries.filter (·.1 = key) =
      if key ∈ bundle.entries.map Prod.fst then bundle.entries.filter (·.1 = key)
      else ((firstString data key).map fun text => (key, BundleValue.string text)).toList := by
  induction data generalizing bundle with
  | nil =>
      split
      · rfl
      case isFalse fresh =>
        rw [List.foldl_nil, filter_eq_nil fresh]
        rfl
  | cons entry rest ih =>
      rw [List.map_cons, List.mem_cons, not_or] at named
      rw [List.foldl_cons, ih named.2, firstString_cons]
      by_cases taken : entry.1 ∈ bundle.entries.map Prod.fst
      · rw [addEntry_taken taken]
        split
        · rfl
        case isFalse fresh =>
          have different : entry.1 ≠ key := fun same => fresh (same ▸ taken)
          rw [if_neg different]
      · rw [addEntry_fresh (Ne.symm named.1) taken, decodeEntry]
        by_cases same : entry.1 = key
        · subst same
          rw [if_neg taken, if_pos rfl]
          cases text : entry.2.getString with
          | none => simp [taken]
          | some text => simp [filter_eq_nil taken]
        · have different : key ≠ entry.1 := Ne.symm same
          rw [if_neg same]
          cases entry.2.getString with
          | none => rw [Option.map_none, Option.toList_none, List.append_nil]
          | some text =>
              rw [Option.map_some, Option.toList_some, List.map_append, List.filter_append]
              by_cases there : key ∈ bundle.entries.map Prod.fst <;> simp [same, different, there]

end Bundle

/-! ## Round trips -/

/-- Decoding an encoded bundle gives its string entries in their order. -/
theorem decode_encode (bundle : Bundle) :
    (bundleFromVariantMap (bundleToVariantMap (some bundle))).entries =
      bundle.entries.filter (·.2.isString) := by
  have named : "" ∉ (bundleToVariantMap (some bundle)).map Prod.fst := by
    rw [bundleToVariantMap_some, List.mem_map]
    rintro ⟨encoded, member, empty⟩
    obtain ⟨entry, there, kept⟩ := List.mem_filterMap.mp member
    apply bundle.nonempty
    rw [← empty, encodeEntry_key kept]
    exact List.mem_map_of_mem there
  have decoded := @Bundle.addAll_fresh _ .create named (encoded_distinct bundle)
    (by simp [Bundle.create])
  rw [bundleFromVariantMap_eq, decoded, bundleToVariantMap_some, List.filterMap_filterMap]
  simp only [encodeEntry_bind_decodeEntry, Bundle.create, List.nil_append]
  rw [← List.filterMap_eq_filter]
  rfl

/-- Encoding a decoded value gives the first text of each key. -/
theorem encode_decode {data : VariantMap} (named : "" ∉ data.map Prod.fst) (key : String) :
    (bundleToVariantMap (some (bundleFromVariantMap data))).filter (·.1 = key) =
      ((firstString data key).map fun text => (key, Variant.string text)).toList := by
  rw [bundleToVariantMap_some, filterMap_encodeEntry_filter, bundleFromVariantMap_eq,
    Bundle.addAll_filter named, if_neg (by simp [Bundle.create])]
  cases firstString data key <;> rfl

/-- Encoding a decoded value gives it back if its keys are distinct and all its
values are of type `s`. -/
theorem encode_decode_of_typed {data : VariantMap} (named : "" ∉ data.map Prod.fst)
    (distinct : (data.map Prod.fst).Nodup)
    (typed : ∀ entry ∈ data, ∃ text, entry.2 = .string text) :
    bundleToVariantMap (some (bundleFromVariantMap data)) = data := by
  rw [bundleToVariantMap_some, bundleFromVariantMap_eq,
    Bundle.addAll_fresh named distinct (by simp [Bundle.create])]
  simp only [Bundle.create, List.nil_append, List.filterMap_filterMap, decodeEntry_bind_encodeEntry]
  have same : ∀ entry ∈ data,
      entry.2.getString.map (fun text => (entry.1, Variant.string text)) = some entry := by
    intro entry member
    obtain ⟨text, string⟩ := typed entry member
    rw [string, Variant.getString, Option.map_some, ← string]
  rw [List.filterMap_congr same, List.filterMap_some]

/-- A bundle comes back as its string entries, and a value as the first text of
each of its keys: unchanged exactly if its keys are distinct and it is all text
of type `s`. -/
theorem bundle_codec_roundTrip :
    (∀ bundle : Bundle, (bundleFromVariantMap (bundleToVariantMap (some bundle))).entries =
      bundle.entries.filter (·.2.isString)) ∧
    ∀ data : VariantMap, "" ∉ data.map Prod.fst →
      (∀ key, (bundleToVariantMap (some (bundleFromVariantMap data))).filter (·.1 = key) =
        ((firstString data key).map fun text => (key, Variant.string text)).toList) ∧
      (bundleToVariantMap (some (bundleFromVariantMap data)) = data ↔
        (data.map Prod.fst).Nodup ∧ ∀ entry ∈ data, ∃ text, entry.2 = .string text) := by
  refine ⟨decode_encode, fun data named => ⟨encode_decode named, ?_⟩⟩
  constructor
  · intro same
    refine ⟨same ▸ encoded_distinct _, fun entry member => ?_⟩
    rw [← same, bundleToVariantMap_some] at member
    obtain ⟨⟨key, value⟩, _, kept⟩ := List.mem_filterMap.mp member
    cases value with
    | string text =>
        obtain rfl := Option.some.inj kept
        exact ⟨text, rfl⟩
    | other => cases kept
  · rintro ⟨distinct, typed⟩
    exact encode_decode_of_typed named distinct typed

/-- A repeated key whose first value is no text, and one of another string type. -/
theorem bundle_codec_roundTrip_repeated :
    (bundleToVariantMap (some (bundleFromVariantMap
      [("key", .other "i" []), ("path", .objectPath "/"), ("key", .string "first"),
        ("key", .string "second")]))).filter (·.1 = "key") = [("key", .string "first")] := by
  have named : "" ∉ [("key", Variant.other "i" []), ("path", .objectPath "/"),
      ("key", .string "first"), ("key", .string "second")].map Prod.fst := by decide
  rw [(bundle_codec_roundTrip.2 _ named).1 "key"]
  rfl

end MessagePort.Client
