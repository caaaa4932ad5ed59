/-
# Descriptors are read as they are spelled

How a tree spells the two kinds of descriptors, with the fields that their records have and the defaults
under which fields may be left out. A document that spells a descriptor in any of these ways is loaded as
that descriptor, `loads_spelled`, provided that the descriptor violates nothing.

Each record has a list of its fields and a description of its draft by the names that have been met. That
its schema follows them is all that is shown for it, and the rest is the theory of records.
-/
import SingleRoot.Descriptor.Load
import SingleRoot.Proofs.Descriptor.Records

namespace SingleRoot.Descriptor

open Device Markup

/-! ## Drafts by the names that have been met -/

/-- What a draft holds for a field, if the field has been met. -/
def ifMet {α : Type} (met : String → Bool) (name : String) (value : α) : Option α :=
  if met name then some value else none

section ifMet

variable {α : Type} {met : String → Bool} {name : String} {value other : α}

@[simp] theorem isSome_ifMet : (ifMet met name value).isSome = met name := by
  cases named : met name <;> simp [ifMet, named]

/-- A field that has its default where it has not been met. -/
theorem getD_ifMet (unmet : met name = false → value = other) :
    (ifMet met name value).getD other = value := by
  cases named : met name with
  | false => simp [ifMet, named, unmet named]
  | true => simp [ifMet, named]

/-- A field that must be met. -/
theorem require_ifMet (unmet : met name = false → False) :
    require name (ifMet met name value) = .ok value := by
  cases named : met name with
  | false => exact (unmet named).elim
  | true => simp [ifMet, named, require]

end ifMet

/-! ## Resource pools -/

namespace PooledFunction

/-- The fields of a function. -/
def fields (function : PooledFunction) : List Field :=
  [⟨"registryDomainName", False, Spells function.domain⟩,
    ⟨"capability", False, Spells function.capability⟩,
    ⟨"devicePciAddress", False, Spells function.address⟩,
    ⟨"connectedToPort", function.connectedTo = "", Spells function.connectedTo⟩]

/-- The draft of a function in which some fields have been met. -/
def draft (function : PooledFunction) (met : String → Bool) : Draft where
  domain := ifMet met "registryDomainName" function.domain
  capability := ifMet met "capability" function.capability
  address := ifMet met "devicePciAddress" function.address
  connectedTo := ifMet met "connectedToPort" function.connectedTo

theorem follows (function : PooledFunction) :
    schema.Follows function.fields function.draft function where
  distinct := by simp [fields]
  blank := rfl
  unknown := by
    intro name others
    simp only [fields, List.forall_mem_cons] at others
    simp [schema, others]
  known := by
    simp only [fields, List.forall_mem_cons]
    refine ⟨?domain, ?capability, ?address, ?connectedTo, by simp⟩
    all_goals
      intro met unmet node spelled
      exact exists_filler rfl (by simpa [draft]) (reads_text spelled _) (by simp [draft, ifMet])
  finish := by
    intro met defaults
    simp only [fields, List.forall_mem_cons] at defaults
    obtain ⟨domain, capability, address, connectedTo, -⟩ := defaults
    simp only [schema, draft]
    rw [require_ifMet domain, require_ifMet capability, require_ifMet address,
      getD_ifMet connectedTo]
    rfl

end PooledFunction

namespace ResourcePool

/-- The field of a pool. -/
def fields (pool : ResourcePool) : List Field :=
  [⟨"physicalFunctions", pool.functions = [],
    SpellsList (fun function => SpellsRecord function.fields) pool.functions⟩]

/-- The draft of a pool in which the field may have been met. -/
def draft (pool : ResourcePool) (met : String → Bool) : Option (List PooledFunction) :=
  ifMet met "physicalFunctions" pool.functions

theorem follows (pool : ResourcePool) : schema.Follows pool.fields pool.draft pool where
  distinct := by simp [fields]
  blank := rfl
  unknown := by
    intro name others
    simp only [fields, List.forall_mem_cons] at others
    simp [schema, others]
  known := by
    simp only [fields, List.forall_mem_singleton]
    intro met unmet node spelled
    have reads := reads_sequence spelled fun function _ spelled => function.follows.reads spelled
    exact exists_filler rfl (by simpa [draft]) reads (by simp [draft, ifMet])
  finish := by
    intro met defaults
    simp only [fields, List.forall_mem_singleton] at defaults
    simp only [schema, draft]
    rw [getD_ifMet defaults]
    rfl

end ResourcePool

/-! ## Endpoints -/

namespace Target

/-- The fields of a target. -/
def fields (target : Target) : List Field :=
  [⟨"macAddress", target.macAddress = "", Spells target.macAddress⟩,
    ⟨"labels", target.labels = .empty, SpellsLabels target.labels⟩]

/-- The draft of a target in which some fields have been met. -/
def draft (target : Target) (met : String → Bool) : Draft where
  macAddress := ifMet met "macAddress" target.macAddress
  labels := ifMet met "labels" target.labels

theorem follows (target : Target) : schema.Follows target.fields target.draft target where
  distinct := by simp [fields]
  blank := rfl
  unknown := by
    intro name others
    simp only [fields, List.forall_mem_cons] at others
    simp [schema, others]
  known := by
    simp only [fields, List.forall_mem_cons]
    refine ⟨?macAddress, ?labels, by simp⟩ <;> intro met unmet node spelled
    case macAddress =>
      exact exists_filler rfl (by simpa [draft]) (reads_text spelled _) (by simp [draft, ifMet])
    case labels =>
      exact exists_filler rfl (by simpa [draft]) (reads_labels spelled) (by simp [draft, ifMet])
  finish := by
    intro met defaults
    simp only [fields, List.forall_mem_cons] at defaults
    obtain ⟨macAddress, labels, -⟩ := defaults
    simp only [schema, draft]
    rw [getD_ifMet macAddress, getD_ifMet labels]
    rfl

end Target

namespace ExposedDevice

/-- The fields of a device. -/
def fields (device : ExposedDevice) : List Field :=
  [⟨"pciAddress", False, Spells device.address⟩,
    ⟨"capability", False, Spells device.capability⟩,
    ⟨"labels", device.labels = .empty, SpellsLabels device.labels⟩,
    ⟨"target", device.target = none,
      SpellsOptional (fun target => SpellsRecord target.fields) device.target⟩]

/-- The draft of a device in which some fields have been met. -/
def draft (device : ExposedDevice) (met : String → Bool) : Draft where
  address := ifMet met "pciAddress" device.address
  capability := ifMet met "capability" device.capability
  labels := ifMet met "labels" device.labels
  target := ifMet met "target" device.target

theorem follows (device : ExposedDevice) : schema.Follows device.fields device.draft device where
  distinct := by simp [fields]
  blank := rfl
  unknown := by
    intro name others
    simp only [fields, List.forall_mem_cons] at others
    simp [schema, others]
  known := by
    simp only [fields, List.forall_mem_cons]
    refine ⟨?address, ?capability, ?labels, ?target, by simp⟩ <;> intro met unmet node spelled
    case address | capability =>
      exact exists_filler rfl (by simpa [draft]) (reads_text spelled _) (by simp [draft, ifMet])
    case labels =>
      exact exists_filler rfl (by simpa [draft]) (reads_labels spelled) (by simp [draft, ifMet])
    case target =>
      have reads := reads_optional spelled fun target _ spelled => target.follows.reads spelled
      exact exists_filler rfl (by simpa [draft]) reads (by simp [draft, ifMet])
  finish := by
    intro met defaults
    simp only [fields, List.forall_mem_cons] at defaults
    obtain ⟨address, capability, labels, target, -⟩ := defaults
    simp only [schema, draft]
    rw [require_ifMet address, require_ifMet capability, getD_ifMet labels, getD_ifMet target]
    rfl

end ExposedDevice

namespace Endpoint

/-- The fields of an endpoint. -/
def fields (endpoint : Endpoint) : List Field :=
  [⟨"hostName", False, Spells endpoint.hostName⟩,
    ⟨"pciDevices", endpoint.devices = [],
      SpellsList (fun device => SpellsRecord device.fields) endpoint.devices⟩]

/-- The draft of an endpoint in which some fields have been met. -/
def draft (endpoint : Endpoint) (met : String → Bool) : Draft where
  hostName := ifMet met "hostName" endpoint.hostName
  devices := ifMet met "pciDevices" endpoint.devices

theorem follows (endpoint : Endpoint) :
    schema.Follows endpoint.fields endpoint.draft endpoint where
  distinct := by simp [fields]
  blank := rfl
  unknown := by
    intro name others
    simp only [fields, List.forall_mem_cons] at others
    simp [schema, others]
  known := by
    simp only [fields, List.forall_mem_cons]
    refine ⟨?hostName, ?devices, by simp⟩ <;> intro met unmet node spelled
    case hostName =>
      exact exists_filler rfl (by simpa [draft]) (reads_text spelled _) (by simp [draft, ifMet])
    case devices =>
      have reads := reads_sequence spelled fun device _ spelled => device.follows.reads spelled
      exact exists_filler rfl (by simpa [draft]) reads (by simp [draft, ifMet])
  finish := by
    intro met defaults
    simp only [fields, List.forall_mem_cons] at defaults
    obtain ⟨hostName, devices, -⟩ := defaults
    simp only [schema, draft]
    rw [require_ifMet hostName, getD_ifMet devices]
    rfl

end Endpoint

/-! ## Documents -/

/-- A kind of descriptor takes a document for a descriptor, and so it does every text of that
document. -/
structure Kind.Loads {Descriptor : Type} (kind : Kind Descriptor) (document : Document)
    (descriptor : Descriptor) : Prop where
  ofDocument : kind.ofDocument document = .ok descriptor
  loadText : ∀ text machine, Document.ofText text = document →
    ((kind.loadText text).run machine).1 = .ok descriptor

/-- A document without a failure that nothing follows holds what is read off its root. -/
theorem decodeDocument_of_reads {α : Type} {decoder : Decoder α} {document : Document} {value : α}
    (reads : decoder.Reads document.root value) (whole : document.failure = none)
    (alone : document.hasMore = false) : decodeDocument decoder document = .ok value := by
  have read : (decoder (.ofDocument document) [] document.root).run 0 = .ok (value, 0) :=
    reads _ _ 0
  rw [decodeDocument, read]
  simp only [whole, alone]
  rfl

theorem Kind.loads_of_decode {Descriptor : Type} (kind : Kind Descriptor) {document : Document}
    {descriptor : Descriptor} (decoded : kind.decode document = .ok descriptor)
    (valid : kind.violation? descriptor = none) : kind.Loads document descriptor := by
  have held : kind.ofDocument document = .ok descriptor := by
    rw [Kind.ofDocument, decoded]
    show kind.validate descriptor = _
    rw [Kind.validate, valid]
  refine ⟨held, ?_⟩
  rintro text machine rfl
  rw [Kind.loadText, Kind.ofText, held]
  rfl

/-- A descriptor that violates nothing is loaded from every document that spells it. -/
theorem loads_spelled (document : Document) (whole : document.failure = none)
    (alone : document.hasMore = false) :
    (∀ pool : ResourcePool, pool.violation? = none → SpellsRecord pool.fields document.root →
        ResourcePool.kind.Loads document pool) ∧
      ∀ endpoint : Endpoint, endpoint.violation? = none →
        SpellsRecord endpoint.fields document.root → Endpoint.kind.Loads document endpoint := by
  constructor
  · intro pool valid spelled
    have reads := pool.follows.reads spelled
    exact ResourcePool.kind.loads_of_decode (decodeDocument_of_reads reads whole alone) valid
  · intro endpoint valid spelled
    have reads := endpoint.follows.reads spelled
    exact Endpoint.kind.loads_of_decode (decodeDocument_of_reads reads whole alone) valid

namespace Sample

/-- A device with labels and with a target without an address. -/
def device : ExposedDevice where
  address := "0000:01:00.1"
  capability := "sriov"
  labels := (Labels.empty.insert "fabric" "a").insert "zone" "b"
  target := some ⟨"", Labels.empty.insert "rack" "7"⟩

/-- A host that exposes the device. -/
def endpoint : Endpoint := ⟨"host-1", [device]⟩

/-- The endpoint as a text with its fields in some order and with more than the fields. -/
def text : String :=
  "note: [1]\npciDevices:\n- target: \x7blabels: \x7brack: 7\x7d, port: 3\x7d\n" ++
    "  labels: \x7bzone: b, fabric: a\x7d\n  capability: sriov\n  pciAddress: 0000:01:00.1\n" ++
    "hostName: host-1\n"

/-- A word that stands after so many lines and characters. -/
def word (line column : Nat) (text : String) : Node :=
  .scalar ⟨line, column, column⟩ none none text true

/-- The entries for the target. -/
def targetEntries : List (Node × Node) :=
  [(word 2 11 "labels", .mapping ⟨2, 19, 19⟩ none [(word 2 20 "rack", word 2 26 "7")]),
    (word 2 30 "port", word 2 36 "3")]

/-- The entries for the device. -/
def deviceEntries : List (Node × Node) :=
  [(word 2 2 "target", .mapping ⟨2, 10, 10⟩ none targetEntries),
    (word 3 2 "labels", .mapping ⟨3, 10, 10⟩ none
      [(word 3 11 "zone", word 3 17 "b"), (word 3 20 "fabric", word 3 28 "a")]),
    (word 4 2 "capability", word 4 14 "sriov"), (word 5 2 "pciAddress", word 5 14 "0000:01:00.1")]

/-- The entries for the endpoint. -/
def entries : List (Node × Node) :=
  [(word 0 0 "note", .sequence ⟨0, 6, 6⟩ none [word 0 7 "1"]),
    (word 1 0 "pciDevices", .sequence ⟨2, 0, 0⟩ none [.mapping ⟨2, 2, 2⟩ none deviceEntries]),
    (word 6 0 "hostName", word 6 10 "host-1")]

/-- The text as a document. -/
def document : Document := ⟨.mapping .start none entries, none, false, 34⟩

set_option maxRecDepth 4000 in
theorem ofText_text : Document.ofText text = document := by rfl

theorem spells_word {line column : Nat} {text : String} : Spells text (word line column text) :=
  .scalar _ _ _

theorem spells_target :
    SpellsRecord (Target.fields ⟨"", Labels.empty.insert "rack" "7"⟩)
      (.mapping ⟨2, 10, 10⟩ none targetEntries) := by
  have labels : SpellsLabels (Labels.empty.insert "rack" "7")
      (.mapping ⟨2, 19, 19⟩ none [(word 2 20 "rack", word 2 26 "7")]) :=
    .mapping _ _ (.refl _) (.cons ⟨spells_word, spells_word⟩ .nil)
  exact .mapping _ _ (.leftOut rfl (.given spells_word labels .nothing))
    (List.forall_mem_singleton.2 ⟨"port", spells_word, by decide, rfl⟩) (.refl _)

theorem spells_device : SpellsRecord device.fields (.mapping ⟨2, 2, 2⟩ none deviceEntries) := by
  have labels : SpellsLabels device.labels (.mapping ⟨3, 10, 10⟩ none
      [(word 3 11 "zone", word 3 17 "b"), (word 3 20 "fabric", word 3 28 "a")]) :=
    .mapping _ _ (.swap ("fabric", "a") ("zone", "b") [])
      (.cons ⟨spells_word, spells_word⟩ (.cons ⟨spells_word, spells_word⟩ .nil))
  have written : Written device.fields deviceEntries.reverse :=
    .given spells_word spells_word <| .given spells_word spells_word <|
      .given spells_word labels <| .given spells_word (.present spells_target) .nothing
  refine .mapping _ _ written (List.forall_mem_nil _) ?_
  rw [List.append_nil]
  exact (List.reverse_perm deviceEntries).symm

theorem spells_endpoint : SpellsRecord endpoint.fields document.root := by
  have written : Written endpoint.fields [(word 6 0 "hostName", word 6 10 "host-1"),
      (word 1 0 "pciDevices", .sequence ⟨2, 0, 0⟩ none [.mapping ⟨2, 2, 2⟩ none deviceEntries])] :=
    .given spells_word spells_word <|
      .given spells_word (.sequence _ _ (.cons spells_device .nil)) .nothing
  exact .mapping _ _ written (List.forall_mem_singleton.2 ⟨"note", spells_word, by decide, rfl⟩)
    (List.reverse_perm entries).symm

end Sample

open Sample in
/-- The text of the sample is loaded as its endpoint, and a mapping without any entries as the pool
without functions. -/
theorem loads_spelled_sample :
    (∀ machine, ((Endpoint.kind.loadText text).run machine).1 = .ok endpoint) ∧
      ResourcePool.kind.Loads ⟨.mapping .start none [], none, false, 2⟩ .empty := by
  have loads := (loads_spelled document rfl rfl).2 endpoint (by decide +kernel) spells_endpoint
  refine ⟨fun machine => loads.loadText text machine ofText_text, ?_⟩
  exact (loads_spelled _ rfl rfl).1 .empty rfl
    (.mapping _ _ (.leftOut rfl .nothing) (List.forall_mem_nil _) (.refl []))

end SingleRoot.Descriptor
