import Banlieue.Cloudinit.Layout

namespace Banlieue.Cloudinit

open Banlieue.Data

/-! # Where the files lie -/

/-- The sectors a file takes, as a number without a bound. -/
def span (file : IsoFile) : Nat := (max file.data.length 1 + (sector - 1)) / sector

variable (file : IsoFile) (kind : DescriptorKind) (files : List IsoFile)

theorem length_le_span : file.data.length ≤ span file * sector := by
  rw [span, sector]
  omega

/-- After `start`, the sectors of all the files have 32-bit numbers. -/
def Room (start : UInt32) (files : List IsoFile) : Prop := start.toNat + (files.map span).sum < 2 ^ 32

variable {files : List IsoFile} {start : UInt32}

theorem Room.next {file : IsoFile} (room : Room start (file :: files)) :
    (start + sectorsFor file.data.length).toNat = start.toNat + span file ∧
      Room (start + sectorsFor file.data.length) files := by
  rw [Room, List.map_cons, List.sum_cons] at room
  have small : span file < 2 ^ 32 := by omega
  have sectors : (sectorsFor file.data.length).toNat = span file := by
    change (if span file < 2 ^ 32 then UInt32.ofNat (span file) else 1).toNat = span file
    rw [if_pos small, UInt32.toNat_ofNat', Nat.mod_eq_of_lt small]
  have next : (start + sectorsFor file.data.length).toNat = start.toNat + span file := by
    rw [UInt32.toNat_add, sectors]
    omega
  refine ⟨next, ?_⟩
  rw [Room, next]
  omega

theorem totalSectors_eq (room : Room start files) :
    (files.foldl (fun lba file => lba + sectorsFor file.data.length) start).toNat =
      start.toNat + (files.map span).sum := by
  induction files generalizing start with
  | nil => rfl
  | cons file files ih =>
    obtain ⟨next, room⟩ := room.next
    rw [List.foldl_cons, ih room, next, List.map_cons, List.sum_cons, Nat.add_assoc]

/-- The file's bytes and the zeros after them. -/
def block (file : IsoFile) : List UInt8 := file.data ++ List.replicate (span file * sector - file.data.length) 0

theorem length_block : (block file).length = span file * sector := by
  have := length_le_span file
  rw [block, List.length_append, List.length_replicate]
  omega

variable {image : List UInt8}

theorem writeFile_eq {file : IsoFile} (size : image.length = start.toNat * sector)
    (next : (start + sectorsFor file.data.length).toNat = start.toNat + span file) :
    writeFile image (file, start) = image ++ block file := by
  have fits := length_le_span file
  have long : (image ++ file.data).length ≤ (start.toNat + span file) * sector := by
    rw [List.length_append, size, Nat.add_mul]
    omega
  rw [writeFile, resize, padded, next, List.take_of_length_le long, List.append_assoc, block,
    List.length_append, size, Nat.add_mul, Nat.add_sub_add_left]

theorem foldl_writeFile (size : image.length = start.toNat * sector) (room : Room start files) :
    (place start files).foldl writeFile image = image ++ (files.map block).flatten := by
  induction files generalizing start image with
  | nil => simp [place]
  | cons file files ih =>
    obtain ⟨next, room⟩ := room.next
    have size' : (image ++ block file).length = (start + sectorsFor file.data.length).toNat * sector := by
      rw [List.length_append, length_block, next, size, Nat.add_mul]
    rw [place, List.foldl_cons, writeFile_eq size next, ih size' room, List.map_cons, List.flatten_cons,
      List.append_assoc]

theorem length_blocks_flatten : (files.map block).flatten.length = (files.map span).sum * sector := by
  induction files with
  | nil => rfl
  | cons file files ih =>
    rw [List.map_cons, List.flatten_cons, List.length_append, ih, length_block, List.map_cons,
      List.sum_cons, Nat.add_mul]

theorem slice_placed (size : image.length = start.toNat * sector) (room : Room start files) :
    ∀ placed ∈ place start files,
      slice (image ++ (files.map block).flatten) (placed.2.toNat * sector) placed.1.data.length = placed.1.data := by
  induction files generalizing start image with
  | nil => simp [place]
  | cons file files ih =>
    obtain ⟨next, room⟩ := room.next
    have size' : (image ++ block file).length = (start + sectorsFor file.data.length).toNat * sector := by
      rw [List.length_append, length_block, next, size, Nat.add_mul]
    rw [place, List.forall_mem_cons, List.map_cons, List.flatten_cons]
    refine ⟨?_, ?_⟩
    · dsimp only
      rw [slice_append_right (by rw [size]), size, Nat.sub_self, block, List.append_assoc,
        slice_append_left (by omega), slice_all le_rfl]
    · rw [← List.append_assoc]
      exact ih size' room

theorem map_fst_place (start : UInt32) (files : List IsoFile) : (place start files).map Prod.fst = files := by
  induction files generalizing start with
  | nil => rfl
  | cons file files ih => rw [place, List.map_cons, ih]

theorem place_bounds (room : Room start files) : ∀ placed ∈ place start files, start.toNat ≤ placed.2.toNat ∧
      placed.2.toNat + span placed.1 ≤ start.toNat + (files.map span).sum := by
  induction files generalizing start with
  | nil => simp [place]
  | cons file files ih =>
    obtain ⟨next, room⟩ := room.next
    rw [place, List.forall_mem_cons, List.map_cons, List.sum_cons]
    refine ⟨⟨le_rfl, by simp only; omega⟩, ?_⟩
    intro placed member
    obtain ⟨after, within⟩ := ih room placed member
    omega

theorem place_ordered (room : Room start files) : (place start files).Pairwise fun first second =>
      first.2.toNat + span first.1 ≤ second.2.toNat := by
  induction files generalizing start with
  | nil => exact .nil
  | cons file files ih =>
    obtain ⟨next, room⟩ := room.next
    rw [place, List.pairwise_cons]
    refine ⟨?_, ih room⟩
    intro placed member
    have after := (place_bounds room placed member).1
    simp only
    omega

/-! # A whole image -/

/-- Names that pass the checks and that a root directory of one sector can list. -/
structure Listable (files : List IsoFile) : Prop where
  checked : ∀ file ∈ files, checkFile file = .ok ()
  short : ∀ kind, ∀ file ∈ files, ((DirEntry.file file.name).identifier kind).length ≤ 221
  room : ∀ kind, 68 + (files.map fun file => recordLength kind (.file file.name)).sum ≤ sector
  decoded : ∀ file ∈ files, decodeUcs2 (ucs2be file.name) = file.name.toList

def imageOf (label : String) (files : List IsoFile) : List UInt8 :=
  (header label (place lbaFirstFile files) (totalSectors files)).flatten ++ (files.map block).flatten

theorem forM_ok (checked : ∀ file ∈ files, checkFile file = .ok ()) : files.forM checkFile = .ok () := by
  induction files with
  | nil => rfl
  | cons file files ih =>
    rw [List.forM_eq_forM] at ih ⊢
    rw [List.forM_cons, checked file List.mem_cons_self]
    exact ih fun file member => checked file (List.mem_cons_of_mem _ member)

variable {label : String}

theorem buildIso9660_eq (short : label.utf8ByteSize ≤ labelMax)
    (listable : Listable files) (room : Room lbaFirstFile files) :
    buildIso9660 label files = .ok (imageOf label files) := by
  have size : (header label (place lbaFirstFile files) (totalSectors files)).flatten.length =
      lbaFirstFile.toNat * sector := length_header ..
  rw [buildIso9660, if_neg (by omega), forM_ok listable.checked, imageOf, ← foldl_writeFile size room]
  rfl

theorem length_imageOf (room : Room lbaFirstFile files) :
    (imageOf label files).length = (totalSectors files).toNat * sector := by
  rw [imageOf, List.length_append, length_header, length_blocks_flatten, totalSectors,
    totalSectors_eq room, ← Nat.add_mul]
  rfl

def volumeOf (kind : DescriptorKind) (files : List IsoFile) : Volume :=
  ⟨(totalSectors files).toNat, ⟨(rootLba kind).toNat, sector⟩,
    (listing kind (place lbaFirstFile files)).map (Listed.record kind)⟩

theorem readVolume_imageOf (listable : Listable files) :
    readVolume (wantedBy kind) (imageOf label files) = some (volumeOf kind files) := by
  apply readVolume_header
  · intro listed member
    simp only [listing, List.mem_cons, List.mem_map] at member
    rcases member with rfl | rfl | ⟨placed, member, rfl⟩
    · cases kind <;> decide
    · cases kind <;> decide
    · apply listable.short kind
      rw [← map_fst_place lbaFirstFile files]
      exact List.mem_map_of_mem member
  · have room := listable.room kind
    have roots : recordLength kind .root = 34 ∧ recordLength kind .parent = 34 := by
      cases kind <;> decide
    rw [← map_fst_place lbaFirstFile files, List.map_map] at room
    rw [listing, List.map_cons, List.map_cons, List.sum_cons, List.sum_cons, List.map_map, roots.1,
      roots.2, ← Nat.add_assoc]
    exact room

theorem entries_volumeOf : (volumeOf kind files).entries = (place lbaFirstFile files).map fun placed =>
      ⟨⟨placed.2.toNat, min placed.1.data.length (2 ^ 32 - 1)⟩, false,
        (DirEntry.file placed.1.name).identifier kind⟩ := by
  have placed : ((place lbaFirstFile files).map fun placed => Listed.record kind
      ⟨.file placed.1.name, placed.2, saturateU32 placed.1.data.length⟩).filter (fun record => !record.directory) = _ :=
    List.filter_eq_self.mpr fun record member => by
      obtain ⟨placed, -, rfl⟩ := List.mem_map.mp member
      rfl
  simp only [Volume.entries, volumeOf, listing, List.map_cons, List.map_map]
  rw [List.filter_cons_of_neg (by cases kind <;> decide), List.filter_cons_of_neg (by cases kind <;> decide)]
  refine placed.trans (List.map_congr_left fun placed _ => ?_)
  simp [Listed.record, DirEntry.flags, toNat_saturateU32]

theorem extents_volumeOf (small : ∀ file ∈ files, file.data.length < 2 ^ 32) (kind : DescriptorKind) :
    (volumeOf kind files).extents =
      (place lbaFirstFile files).map fun placed => ⟨placed.2.toNat, placed.1.data.length⟩ := by
  rw [Volume.extents, entries_volumeOf, List.map_map]
  apply List.map_congr_left
  intro placed member
  have present : placed.1 ∈ files := by
    rw [← map_fst_place lbaFirstFile files]
    exact List.mem_map_of_mem member
  have := small placed.1 present
  rw [Function.comp_apply, Nat.min_eq_left (by omega)]

theorem files_volumeOf (listable : Listable files)
    (room : Room lbaFirstFile files) (small : ∀ file ∈ files, file.data.length < 2 ^ 32) :
    (volumeOf .joliet files).files (imageOf label files) = files := by
  have size : (header label (place lbaFirstFile files) (totalSectors files)).flatten.length =
      lbaFirstFile.toNat * sector := length_header ..
  have content := slice_placed size room
  rw [Volume.files, entries_volumeOf, List.map_map]
  nth_rewrite 3 [← map_fst_place lbaFirstFile files]
  apply List.map_congr_left
  intro placed member
  have present : placed.1 ∈ files := by
    rw [← map_fst_place lbaFirstFile files]
    exact List.mem_map_of_mem member
  have := small placed.1 present
  simp only [Function.comp_apply, DirEntry.identifier, listable.decoded placed.1 present,
    Extent.content, Extent.start, Nat.min_eq_left (show placed.1.data.length ≤ 2 ^ 32 - 1 by omega)]
  rw [imageOf, content placed member, String.ofList_toList]

def allExtents (files : List IsoFile) : List Extent :=
  ⟨23, sector⟩ :: ⟨24, sector⟩ ::
    (place lbaFirstFile files).map fun placed => ⟨placed.2.toNat, placed.1.data.length⟩

theorem Extent.stop_le {extent : Extent} {count limit : Nat} (size : extent.size ≤ count * sector)
    (before : extent.lba + count ≤ limit) : extent.stop ≤ limit * sector := by
  calc extent.stop ≤ (extent.lba + count) * sector := by
        rw [stop, start, Nat.add_mul]
        omega
    _ ≤ limit * sector := Nat.mul_le_mul_right _ before

theorem allExtents_apart (room : Room lbaFirstFile files) : (allExtents files).Pairwise Extent.Apart := by
  have after : ∀ placed ∈ place lbaFirstFile files, 25 ≤ placed.2.toNat :=
    fun placed member => (place_bounds room placed member).1
  rw [allExtents, List.pairwise_cons, List.pairwise_cons, List.pairwise_map, List.forall_mem_cons,
    List.forall_mem_map, List.forall_mem_map]
  have root {lba : Nat} (early : lba < 25) (placed) (member : placed ∈ place lbaFirstFile files) :
      Extent.Apart ⟨lba, sector⟩ ⟨placed.2.toNat, placed.1.data.length⟩ :=
    .inl (Extent.stop_le (Nat.one_mul _).ge (by have := after placed member; simp only; omega))
  refine ⟨⟨?_, root (by decide)⟩, root (by decide), ?_⟩
  · exact .inl (Extent.stop_le (Nat.one_mul _).ge le_rfl)
  · refine (place_ordered room).imp ?_
    intro first second before
    exact .inl (Extent.stop_le (length_le_span first.1) before)

theorem allExtents_inside (room : Room lbaFirstFile files) :
    ∀ extent ∈ allExtents files, extent.stop ≤ (imageOf label files).length := by
  have total : (totalSectors files).toNat = 25 + (files.map span).sum := totalSectors_eq room
  rw [length_imageOf room, total, allExtents, List.forall_mem_cons, List.forall_mem_cons, List.forall_mem_map]
  refine ⟨?_, ?_, ?_⟩
  · exact Extent.stop_le (Nat.one_mul _).ge (by simp only; omega)
  · exact Extent.stop_le (Nat.one_mul _).ge (by simp only; omega)
  · intro placed member
    exact Extent.stop_le (length_le_span placed.1) (place_bounds room placed member).2

theorem holds_imageOf (listable : Listable files)
    (room : Room lbaFirstFile files) (small : ∀ file ∈ files, file.data.length < 2 ^ 32) :
    Holds files (imageOf label files) (volumeOf .primary files) (volumeOf .joliet files) := by
  have extents : (volumeOf .primary files).root :: (volumeOf .joliet files).root ::
      (volumeOf .joliet files).extents = allExtents files := by
    rw [extents_volumeOf small]
    rfl
  refine
    { readPrimary := readVolume_imageOf .primary listable
      readJoliet := readVolume_imageOf .joliet listable
      content := files_volumeOf listable room small
      shared := by rw [extents_volumeOf small, extents_volumeOf small]
      primarySize := (length_imageOf room).symm
      jolietSize := (length_imageOf room).symm
      aligned := fun extent _ => Nat.mul_mod_left ..
      apart := ?_
      inside := ?_ }
  · rw [extents]
    exact allExtents_apart room
  · rw [extents]
    exact allExtents_inside room

/-! # The seed -/

theorem listable_seedFiles (domainName domainUuid : String) (userData networkConfig : Option String) :
    Listable (seedFiles domainName domainUuid userData networkConfig) := by
  have named : ∀ file ∈ seedFiles domainName domainUuid userData networkConfig,
      file.name ∈ ["meta-data", "user-data", networkConfigFile] := by
    cases networkConfig <;> simp [seedFiles]
  have checked : ∀ name ∈ ["meta-data", "user-data", networkConfigFile], checkFile ⟨name, []⟩ = .ok () := by
    decide +kernel
  have short : ∀ name ∈ ["meta-data", "user-data", networkConfigFile],
      (ascii (primaryName name)).length ≤ 221 ∧ (ucs2be name).length ≤ 221 := by
    decide +kernel
  have decoded : ∀ name ∈ ["meta-data", "user-data", networkConfigFile],
      decodeUcs2 (ucs2be name) = name.toList := by
    decide +kernel
  have room : ∀ kind, 68 + ((["meta-data", "user-data", networkConfigFile].map fun name =>
      recordLength kind (.file name)).sum) ≤ sector := by
    intro kind
    cases kind <;> decide +kernel
  refine
    { checked := fun file member => checked file.name (named file member)
      short := fun kind file member => ?_
      room := fun kind => ?_
      decoded := fun file member => decoded file.name (named file member) }
  · cases kind with
    | primary => exact (short file.name (named file member)).1
    | joliet => exact (short file.name (named file member)).2
  · have := room kind
    simp only [List.map_cons, List.map_nil, List.sum_cons, List.sum_nil] at this
    cases networkConfig <;>
      simp only [seedFiles, List.cons_append, List.nil_append, Option.toList, List.map_cons, List.map_nil,
        List.sum_cons, List.sum_nil] <;> omega

/-- The sectors of the image have 32-bit numbers. -/
def Fits (files : List IsoFile) : Prop := systemAreaSectors + 9 + (files.map span).sum < 2 ^ 32

theorem size_lt_of_mem_parseRecords {fuel : Nat} {bytes : List UInt8} :
    ∀ record ∈ parseRecords fuel bytes, record.extent.size < 2 ^ 32 := by
  induction fuel generalizing bytes with
  | zero => simp [parseRecords]
  | succ fuel ih =>
    cases bytes with
    | nil => simp [parseRecords]
    | cons length rest =>
      rw [parseRecords]
      split
      · simp
      · rw [List.forall_mem_cons]
        refine ⟨?_, ih⟩
        calc leValue _ < 256 ^ (slice ((length :: rest).take length.toNat) 10 4).reverse.length :=
              beValue_lt _
          _ ≤ 256 ^ 4 := by
              rw [List.length_reverse]
              exact Nat.pow_le_pow_right (by decide) (length_slice_le ..)

theorem length_lt_of_mem_files {wanted : List UInt8 → Bool} {volume : Volume}
    (read : readVolume wanted image = some volume) : ∀ file ∈ volume.files image, file.data.length < 2 ^ 32 := by
  intro file member
  obtain ⟨record, entry, rfl⟩ := List.mem_map.mp member
  rw [readVolume, Option.bind_eq_bind, Option.bind_eq_some_iff] at read
  obtain ⟨descriptor, -, read⟩ := read
  obtain rfl := Option.some.inj read
  have counted := size_lt_of_mem_parseRecords record (List.mem_of_mem_filter entry)
  exact lt_of_le_of_lt (length_slice_le ..) counted

theorem exists_nonzero_of_buildSeedIso {domainName domainUuid : String} {userData networkConfig : Option String}
    (fits : Fits (seedFiles domainName domainUuid userData networkConfig))
    (built : buildSeedIso domainName domainUuid userData networkConfig = .ok image) : ∃ byte ∈ image, byte ≠ 0 := by
  have listable := listable_seedFiles domainName domainUuid userData networkConfig
  have same : buildSeedIso domainName domainUuid userData networkConfig = .ok (imageOf cidataLabel _) :=
    buildIso9660_eq (by decide) listable fits
  obtain rfl := Except.ok.inj (same.symm.trans built)
  have primary : slice (imageOf cidataLabel (seedFiles domainName domainUuid userData networkConfig))
      (systemAreaSectors * sector) sector = _ := slice_header rfl _
  refine ⟨1, ?_, by decide⟩
  have inside : (1 : UInt8) ∈ slice (slice (imageOf cidataLabel (seedFiles domainName domainUuid userData
      networkConfig)) (systemAreaSectors * sector) sector) 0 1 := by
    rw [primary, descriptor_type]
    exact List.mem_cons_self
  exact List.mem_of_mem_drop (List.mem_of_mem_take (List.mem_of_mem_drop (List.mem_of_mem_take inside)))

theorem seed_reads_back_iff (domainName domainUuid : String) (userData networkConfig : Option String)
    (fits : Fits (seedFiles domainName domainUuid userData networkConfig)) :
    (∃ image primary joliet,
        buildSeedIso domainName domainUuid userData networkConfig = .ok image ∧
          Holds (seedFiles domainName domainUuid userData networkConfig) image primary joliet) ↔
      ∀ file ∈ seedFiles domainName domainUuid userData networkConfig, file.data.length < 2 ^ 32 := by
  have listable := listable_seedFiles domainName domainUuid userData networkConfig
  constructor
  · rintro ⟨image, primary, joliet, -, holds⟩ file member
    rw [← holds.content] at member
    exact length_lt_of_mem_files holds.readJoliet file member
  · intro small
    exact ⟨_, _, _, buildIso9660_eq (by decide) listable fits, holds_imageOf listable fits small⟩

theorem short_seed_reads_back :
    Fits (seedFiles "dev-web" "0f0e" none (some "version: 2\n")) ∧
      ∃ image primary joliet,
        buildSeedIso "dev-web" "0f0e" none (some "version: 2\n") = .ok image ∧
          Holds (seedFiles "dev-web" "0f0e" none (some "version: 2\n")) image primary joliet := by
  have fits : Fits (seedFiles "dev-web" "0f0e" none (some "version: 2\n")) := by
    unfold Fits
    decide +kernel
  exact ⟨fits, (seed_reads_back_iff _ _ _ _ fits).mpr (by decide +kernel)⟩

theorem exists_text (size : Nat) : ∃ text : String, (ascii text).length = size := by
  induction size with
  | zero => exact ⟨"", rfl⟩
  | succ size ih =>
    obtain ⟨text, length⟩ := ih
    refine ⟨text.push 'a', ?_⟩
    have grown : (ascii (text.push 'a')).length = (ascii text).length + 1 := String.utf8ByteSize_push
    rw [grown, length]

/-- The record of a file of 4 GiB says that it has one byte less. -/
theorem four_gigabytes_cut :
    ∃ userData image joliet, Fits (seedFiles "dev-web" "0f0e" (some userData) none) ∧
      buildSeedIso "dev-web" "0f0e" (some userData) none = .ok image ∧
      readVolume isJoliet image = some joliet ∧
      joliet.files image ≠ seedFiles "dev-web" "0f0e" (some userData) none := by
  obtain ⟨userData, length⟩ := exists_text (2 ^ 32)
  have listable := listable_seedFiles "dev-web" "0f0e" (some userData) none
  have fits : Fits (seedFiles "dev-web" "0f0e" (some userData) none) := by
    have user : span ⟨"user-data", ascii userData⟩ = 2 ^ 21 := by
      rw [span, length]
      decide
    have machine : span ⟨"meta-data", ascii "instance-id: 0f0e\nlocal-hostname: dev-web\n"⟩ = 1 := by
      decide +kernel
    change systemAreaSectors + 9 + (span _ + (span ⟨"user-data", ascii userData⟩ + 0)) < 2 ^ 32
    rw [user]
    exact Nat.lt_of_le_of_lt (Nat.add_le_add_left (Nat.add_le_add_right machine.le _) _) (by decide)
  have read : readVolume isJoliet (imageOf cidataLabel (seedFiles "dev-web" "0f0e" (some userData) none)) =
      _ := readVolume_imageOf .joliet listable
  refine ⟨userData, _, _, fits, buildIso9660_eq (by decide) listable fits, read, ?_⟩
  intro same
  have small := length_lt_of_mem_files read ⟨"user-data", ascii userData⟩ (by rw [same]; simp [seedFiles])
  simp [length] at small

end Banlieue.Cloudinit
