import Banlieue.Cloudinit.IsoReader
import Mathlib.Algebra.BigOperators.Group.List.Basic

namespace Banlieue.Cloudinit

open Banlieue.Data

/-! # Directory records -/

/-- Bytes that start with their own number. -/
def Measured (record : List UInt8) : Prop := ∃ length rest, record = length :: rest ∧ length.toNat = record.length

theorem parseRecords_append {record : List UInt8} (measured : Measured record) (fuel : Nat) (rest : List UInt8) :
    parseRecords (fuel + 1) (record ++ rest) = decodeRecord record :: parseRecords fuel rest := by
  obtain ⟨length, body, rfl, size⟩ := measured
  have positive : length ≠ 0 := by
    rintro rfl
    simp at size
  rw [List.cons_append, parseRecords, if_neg positive, size, ← List.cons_append, List.take_left, List.drop_left]

variable {fuel : Nat} {entry : DirEntry} {label : String} {total : UInt32}

theorem parseRecords_flatten {records : List (List UInt8)} (measured : ∀ record ∈ records, Measured record)
    (enough : records.length ≤ fuel) (zeros : Nat) :
    parseRecords fuel (records.flatten ++ List.replicate zeros 0) = records.map decodeRecord := by
  induction records generalizing fuel with
  | nil => cases fuel <;> cases zeros <;> rfl
  | cons record records ih =>
    obtain ⟨fuel, rfl⟩ : ∃ less, fuel = less + 1 := ⟨fuel - 1, by simp at enough; omega⟩
    rw [List.flatten_cons, List.append_assoc, parseRecords_append (measured record List.mem_cons_self),
      ih (fun record member => measured record (List.mem_cons_of_mem _ member)) (by simpa using enough), List.map_cons]

@[simp] theorem length_both32 (value : UInt32) : (both32 value).length = 8 := by simp [both32]

@[simp] theorem length_both16 (value : UInt16) : (both16 value).length = 4 := by simp [both16]

def recordLength (kind : DescriptorKind) (entry : DirEntry) : Nat :=
  let length := 33 + (entry.identifier kind).length
  length + length % 2

theorem directoryRecord_eq (kind : DescriptorKind) (entry : DirEntry) (lba size : UInt32) :
    directoryRecord kind entry lba size = [saturateU8 (recordLength kind entry), 0] ++ (both32 lba ++ (both32 size ++
        ([70, 1, 1, 0, 0, 0, 0] ++ ([entry.flags, 0, 0] ++ (both16 1 ++
          ([saturateU8 (entry.identifier kind).length] ++ (entry.identifier kind ++
            List.replicate ((33 + (entry.identifier kind).length) % 2) 0))))))) := by
  have length : ([0, 0] ++ both32 lba ++ both32 size ++ [70, 1, 1, 0, 0, 0, 0] ++
      [entry.flags, 0, 0] ++ both16 1 ++ [saturateU8 (entry.identifier kind).length] ++
      entry.identifier kind : List UInt8).length = 33 + (entry.identifier kind).length := by
    simp only [List.length_append, List.length_cons, List.length_nil, length_both32, length_both16]
  simp only [directoryRecord, recordLength, length]
  rcases Nat.mod_two_eq_zero_or_one (33 + (entry.identifier kind).length) with even | odd
  · simp [patch, even]
    exact congrArg saturateU8 (by omega)
  · simp [patch, odd]
    exact congrArg saturateU8 (by omega)

theorem length_directoryRecord (kind : DescriptorKind) (entry : DirEntry) (lba size : UInt32) :
    (directoryRecord kind entry lba size).length = recordLength kind entry := by
  rw [directoryRecord_eq]
  simp [recordLength]
  omega

theorem toNat_saturateU8 {value : Nat} (small : value ≤ 255) : (saturateU8 value).toNat = value := by
  rw [saturateU8, UInt8.toNat_ofNat', Nat.min_eq_left small]
  omega

theorem toNat_saturateU32 (value : Nat) : (saturateU32 value).toNat = min value (2 ^ 32 - 1) := by
  rw [saturateU32, UInt32.toNat_ofNat']
  omega

theorem leValue_byte (byte : UInt8) : leValue [byte] = byte.toNat := by simp [leValue, beValue]

theorem leValue_both32 (value : UInt32) : leValue (slice (both32 value) 0 4) = value.toNat := by
  have small : value.toNat < 256 ^ 4 := value.toNat_lt
  rw [both32, slice_append_left (by simp), slice_all (by simp), leValue_leBytes, Nat.mod_eq_of_lt small]

variable {kind : DescriptorKind}

theorem measured_directoryRecord (short : (entry.identifier kind).length ≤ 221) (lba size : UInt32) :
    Measured (directoryRecord kind entry lba size) := by
  rw [Measured, length_directoryRecord, directoryRecord_eq]
  refine ⟨_, _, rfl, toNat_saturateU8 ?_⟩
  simp only [recordLength]
  omega

theorem decodeRecord_directoryRecord (short : (entry.identifier kind).length ≤ 221) (lba size : UInt32) :
    decodeRecord (directoryRecord kind entry lba size) =
      ⟨⟨lba.toNat, size.toNat⟩, entry.flags == 2, entry.identifier kind⟩ := by
  have named : leValue [saturateU8 (entry.identifier kind).length] = (entry.identifier kind).length := by
    rw [leValue_byte, toNat_saturateU8 (by omega)]
  rw [directoryRecord_eq, decodeRecord]
  simp (disch := simp [both32, both16]) only [slice_append_right, slice_append_left, slice_all,
    List.length_cons, List.length_nil, length_both32, length_both16, Nat.reduceAdd, Nat.reduceSub]
  have directory : (leValue (slice [entry.flags, 0, 0] 0 1) / 2 % 2 == 1) = (entry.flags == 2) := by
    rw [show slice [entry.flags, 0, 0] 0 1 = [entry.flags] from rfl, leValue_byte]
    cases entry <;> simp [DirEntry.flags]
  rw [leValue_both32, leValue_both32, directory, named, slice_append_left (by omega), slice_all le_rfl]

/-! # The root directory -/

/-- An entry of a directory, with the extent it names. -/
structure Listed where
  entry : DirEntry
  lba : UInt32
  size : UInt32

namespace Listed

def bytes (kind : DescriptorKind) (listed : Listed) : List UInt8 :=
  directoryRecord kind listed.entry listed.lba listed.size

def record (kind : DescriptorKind) (listed : Listed) : Record :=
  ⟨⟨listed.lba.toNat, listed.size.toNat⟩, listed.entry.flags == 2, listed.entry.identifier kind⟩

end Listed

def rootLba : DescriptorKind → UInt32
  | .primary => lbaRoot
  | .joliet => lbaRootJoliet

/-- What the root directory lists: itself twice, and the files. -/
def listing (kind : DescriptorKind) (placed : List (IsoFile × UInt32)) : List Listed :=
  ⟨.root, rootLba kind, .ofNat sector⟩ :: ⟨.parent, rootLba kind, .ofNat sector⟩ ::
    placed.map fun (file, lba) => ⟨.file file.name, lba, saturateU32 file.data.length⟩

theorem rootDirectory_eq (kind : DescriptorKind) (placed : List (IsoFile × UInt32)) :
    rootDirectory kind placed = resize ((listing kind placed).map (Listed.bytes kind)).flatten sector := by
  simp only [rootDirectory, listing, List.map_cons, List.flatten_cons, List.map_map, List.flatMap_def]
  cases kind <;> rfl

variable {placed : List (IsoFile × UInt32)}

theorem parse_rootDirectory (short : ∀ listed ∈ listing kind placed, (listed.entry.identifier kind).length ≤ 221)
    (room : ((listing kind placed).map fun listed => recordLength kind listed.entry).sum ≤ sector) :
    parseRecords sector (rootDirectory kind placed) = (listing kind placed).map (Listed.record kind) := by
  have size : ((listing kind placed).map (Listed.bytes kind)).flatten.length ≤ sector := by
    rw [List.length_flatten, List.map_map]
    simpa only [Function.comp_def, Listed.bytes, length_directoryRecord] using room
  rw [rootDirectory_eq, resize, padded, List.take_of_length_le size, parseRecords_flatten]
  · rw [List.map_map]
    apply List.map_congr_left
    intro listed member
    exact decodeRecord_directoryRecord (short listed member) listed.lba listed.size
  · intro record member
    obtain ⟨listed, present, rfl⟩ := List.mem_map.mp member
    exact measured_directoryRecord (short listed present) listed.lba listed.size
  · refine le_trans ?_ room
    rw [List.length_map, ← List.length_map fun listed : Listed => recordLength kind listed.entry]
    apply List.length_le_sum_of_one_le
    intro length member
    obtain ⟨listed, -, rfl⟩ := List.mem_map.mp member
    simp only [recordLength]
    omega

/-! # Volume descriptors -/

theorem length_padded (width : Nat) (text : List UInt8) (pad : UInt8) : (padded width text pad).length = width := by
  simp only [padded, List.length_append, List.length_take, List.length_replicate]
  omega

theorem labelMax_le_length_fillLabel {identifier : List UInt8}
    (enough : labelMax ≤ identifier.length + 2 * fuel) : labelMax ≤ (fillLabel fuel identifier).length := by
  induction fuel generalizing identifier with
  | zero => simpa [fillLabel] using enough
  | succ fuel ih =>
    rw [fillLabel]
    split
    · apply ih
      simp only [List.length_append, List.length_cons, List.length_nil]
      omega
    · omega

theorem length_joliet_label : ((fillLabel 16 (ucs2be label)).take 32).length = 32 := by
  have long : labelMax ≤ (fillLabel 16 (ucs2be label)).length := labelMax_le_length_fillLabel (by rw [labelMax]; omega)
  rw [labelMax] at long
  rw [List.length_take, Nat.min_eq_left long]

/-- The place and the width of every field. -/
def fieldShapes (fields : List (Nat × List UInt8)) : List (Nat × Nat) :=
  fields.map fun field => (field.1, field.2.length)

def descriptorShapes (kind : DescriptorKind) : List (Nat × Nat) :=
  [(0, 1), (1, 5), (6, 1), (8, 32), (40, 32)] ++
    (match kind with | .primary => [] | .joliet => [(88, 3)]) ++
    [(80, 8), (120, 4), (124, 4), (128, 4), (132, 8), (140, 4), (148, 4), (156, 34), (318, 128),
      (446, 128), (574, 128), (702, 37), (813, 16), (829, 1), (830, 16), (846, 1), (864, 16), (880, 1),
      (847, 16), (863, 1), (881, 1)]

theorem fieldShapes_descriptorFields : fieldShapes (descriptorFields kind label total) = descriptorShapes kind := by
  have text : (ascii "CD001").length = 5 ∧ (ascii "%/E").length = 3 ∧ fixedVolumeDate.length = 16 := by
    decide
  cases kind
  · simp [fieldShapes, descriptorFields, descriptorShapes, length_padded, text, length_directoryRecord,
      recordLength, DirEntry.identifier]
  · simp only [fieldShapes, descriptorFields, descriptorShapes, length_padded, text,
      length_directoryRecord, length_joliet_label, List.map_append, List.map_cons, List.map_nil,
      length_both32, length_both16, length_leBytes, length_beBytes, List.length_singleton]
    simp [recordLength, DirEntry.identifier]

theorem descriptorFields_clear : (descriptorFields kind label total).Pairwise Clear := by
  have shapes : (descriptorShapes kind).Pairwise fun first second =>
      first.1 + first.2 ≤ second.1 ∨ second.1 + second.2 ≤ first.1 := by
    cases kind <;> decide
  rw [← @fieldShapes_descriptorFields label total kind, fieldShapes, List.pairwise_map] at shapes
  exact shapes

theorem descriptorFields_inside : ∀ field ∈ descriptorFields kind label total,
      field.1 + field.2.length ≤ (List.replicate sector (0 : UInt8)).length := by
  have shapes : ∀ shape ∈ descriptorShapes kind, shape.1 + shape.2 ≤ sector := by
    cases kind <;> decide
  rw [← @fieldShapes_descriptorFields label total kind, fieldShapes, List.forall_mem_map] at shapes
  simpa using shapes

theorem slice_volumeDescriptor {offset : Nat}
    {bytes : List UInt8} (member : (offset, bytes) ∈ descriptorFields kind label total) :
    slice (volumeDescriptor kind label total) offset bytes.length = bytes :=
  slice_patches descriptorFields_inside descriptorFields_clear member

theorem length_volumeDescriptor : (volumeDescriptor kind label total).length = sector := by
  rw [volumeDescriptor, length_patches descriptorFields_inside, List.length_replicate]

def descriptorType : DescriptorKind → UInt8
  | .primary => 1
  | .joliet => 2

theorem descriptor_type : slice (volumeDescriptor kind label total) 0 1 = [descriptorType kind] := by
  have member : (0, [descriptorType kind]) ∈ descriptorFields kind label total := by
    cases kind <;> exact List.mem_cons_self
  exact slice_volumeDescriptor member

theorem descriptor_identifier : slice (volumeDescriptor kind label total) 1 5 = ascii "CD001" := by
  have size : (ascii "CD001").length = 5 := by decide
  rw [← size]
  exact slice_volumeDescriptor (List.mem_cons_of_mem _ List.mem_cons_self)

theorem descriptor_size : leValue (slice (volumeDescriptor kind label total) 80 4) = total.toNat := by
  have field : slice (volumeDescriptor kind label total) 80 8 = both32 total := by
    rw [← length_both32 total]
    apply slice_volumeDescriptor
    simp [descriptorFields]
  rw [← leValue_both32, ← field, slice_slice (by decide)]

theorem descriptor_root : (decodeRecord (slice (volumeDescriptor kind label total) 156 34)).extent =
      ⟨(rootLba kind).toNat, sector⟩ := by
  have size : (directoryRecord kind .root (rootLba kind) (.ofNat sector)).length = 34 := by
    rw [length_directoryRecord]
    cases kind <;> rfl
  rw [← size, slice_volumeDescriptor, decodeRecord_directoryRecord (by simp [DirEntry.identifier])]
  · rfl
  · cases kind <;> simp [descriptorFields, rootLba]

theorem isJoliet_volumeDescriptor : isJoliet (volumeDescriptor .joliet label total) = true := by
  have size : (ascii "%/E").length = 3 := by decide
  have escape : slice (volumeDescriptor .joliet label total) 88 3 = ascii "%/E" := by
    rw [← size]
    apply slice_volumeDescriptor
    simp [descriptorFields]
  rw [isJoliet, descriptor_type, escape]
  simp [descriptorType]

/-! # The sectors before the files -/

def header (label : String) (placed : List (IsoFile × UInt32)) (total : UInt32) : List (List UInt8) :=
  List.replicate systemAreaSectors (List.replicate sector 0) ++
    [volumeDescriptor .primary label total, volumeDescriptor .joliet label total,
      terminator, pathTable .little lbaRoot, pathTable .big lbaRoot, pathTable .little lbaRootJoliet,
      pathTable .big lbaRootJoliet, rootDirectory .primary placed, rootDirectory .joliet placed]

theorem length_pathTable (endian : Endian) (lba : UInt32) : (pathTable endian lba).length = sector := by
  have room : 9 ≤ sector := by decide
  rw [pathTable, length_patches, List.length_replicate]
  cases endian <;> simp only [List.forall_mem_cons, List.length_replicate, List.length_cons,
    List.length_nil, length_leBytes, length_beBytes] <;> refine ⟨?_, ?_, ?_, ?_, ?_, by simp⟩ <;> omega

theorem length_terminator : terminator.length = sector := by
  have size : (ascii "CD001").length = 5 := by decide
  have room : 9 ≤ sector := by decide
  rw [terminator, length_patches, List.length_replicate]
  simp only [List.forall_mem_cons, List.length_replicate, List.length_cons, List.length_nil, size]
  refine ⟨?_, ?_, ?_, by simp⟩ <;> omega

theorem header_sized : ∀ block ∈ header label placed total, block.length = sector := by
  have root (kind : DescriptorKind) : (rootDirectory kind placed).length = sector := by
    rw [rootDirectory_eq, resize, length_padded]
  rw [header, List.forall_mem_append]
  refine ⟨?_, ?_⟩
  · intro block member
    rw [List.eq_of_mem_replicate member, List.length_replicate]
  · simp only [List.forall_mem_cons, length_volumeDescriptor, length_terminator, length_pathTable, root, true_and]
    exact fun _ absent => absurd absent List.not_mem_nil

theorem length_blocks : (header label placed total).length = 25 := by
  rw [header, List.length_append, List.length_replicate]
  rfl

theorem length_header : (header label placed total).flatten.length = 25 * sector := by
  rw [List.length_flatten, List.map_congr_left header_sized, List.map_const', List.sum_replicate_nat, length_blocks]

theorem slice_header {number : Nat} {block : List UInt8} (found : (header label placed total)[number]? = some block)
    (rest : List UInt8) : slice ((header label placed total).flatten ++ rest) (number * sector) sector = block := by
  have below : number < 25 := by
    rw [← @length_blocks label total placed]
    exact (List.getElem?_eq_some_iff.mp found).1
  rw [slice_append_left, slice_flatten header_sized found]
  rw [length_header, ← Nat.succ_mul]
  exact Nat.mul_le_mul_right _ below

def wantedBy : DescriptorKind → List UInt8 → Bool
  | .primary => isPrimary
  | .joliet => isJoliet

theorem findDescriptor_header (rest : List UInt8) (fuel : Nat) :
    findDescriptor (wantedBy kind) ((header label placed total).flatten ++ rest) (fuel + 2)
      systemAreaSectors = some (volumeDescriptor kind label total) := by
  have primary : slice ((header label placed total).flatten ++ rest) (systemAreaSectors * sector) sector =
      volumeDescriptor .primary label total := slice_header rfl rest
  have joliet : slice ((header label placed total).flatten ++ rest) ((systemAreaSectors + 1) * sector)
      sector = volumeDescriptor .joliet label total := slice_header rfl rest
  have notEnd (kind : DescriptorKind) : ¬ ([descriptorType kind] : List UInt8) = [255] := by
    cases kind <;> decide
  cases kind with
  | primary =>
    have wanted : isPrimary (volumeDescriptor .primary label total) = true := by
      rw [isPrimary, descriptor_type]
      rfl
    simp only [findDescriptor, wantedBy, primary, descriptor_identifier, descriptor_type, notEnd,
      wanted, ne_eq, not_true_eq_false, or_self, if_false, if_true]
  | joliet =>
    -- the reader passes the primary descriptor
    have passed : isJoliet (volumeDescriptor .primary label total) = false := by
      rw [isJoliet, descriptor_type]
      rfl
    simp only [findDescriptor, wantedBy, primary, joliet, descriptor_identifier, descriptor_type,
      notEnd, passed, isJoliet_volumeDescriptor, ne_eq, not_true_eq_false, or_self, if_false, if_true,
      Bool.false_eq_true]

theorem readVolume_header (rest : List UInt8)
    (short : ∀ listed ∈ listing kind placed, (listed.entry.identifier kind).length ≤ 221)
    (room : ((listing kind placed).map fun listed => recordLength kind listed.entry).sum ≤ sector) :
    readVolume (wantedBy kind) ((header label placed total).flatten ++ rest) =
      some ⟨total.toNat, ⟨(rootLba kind).toNat, sector⟩, (listing kind placed).map (Listed.record kind)⟩ := by
  have fuel : ((header label placed total).flatten ++ rest).length / sector = 23 + rest.length / sector + 2 := by
    rw [List.length_append, length_header, Nat.add_comm, Nat.add_mul_div_right _ _ (by decide)]
    omega
  have root : slice ((header label placed total).flatten ++ rest) ((rootLba kind).toNat * sector) sector =
      rootDirectory kind placed := by
    cases kind <;> exact slice_header rfl rest
  rw [readVolume, fuel, findDescriptor_header]
  simp only [Option.bind_eq_bind, Option.bind_some, descriptor_size, descriptor_root, Extent.content,
    Extent.start, root, parse_rootDirectory short room, pure]

end Banlieue.Cloudinit
