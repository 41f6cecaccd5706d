import Mathlib.Data.List.GetD
import Cvbd.WireCore

/-!
What a handler reads from its buffer after a message has been sent and received
over old buffers on both sides. All kinds but OPEN arrive as they were sent;
OPEN does so exactly when the sender's leftover bytes happen to complete the two
names.
-/

namespace Cvbd

/-- A queue or file name an OPEN can be asked to carry. -/
structure FileName where
  bytes : Name
  nonempty : bytes ≠ []
  noNul : 0 ∉ bytes
  short : bytes.length < pathMax

namespace Wire

open LittleEndian

/-! Headers. -/

theorem typeOfCode_typeCode (type : RequestType) : typeOfCode (typeCode type) = type := by
  cases type <;> rfl

theorem typeCode_lt (type : RequestType) : typeCode type < 256 ^ 4 := by
  cases type <;> decide

theorem uint64_fits (value : UInt64) : value.toNat < 256 ^ 8 := value.toNat_lt

theorem viewHeader_congr {left right : Bytes}
    (same : ∀ index, index < headerSize → left index = right index) :
    viewHeader left = viewHeader right := by
  have field (start width : Nat) (inside : start + width ≤ headerSize) :
      load left start width = load right start width :=
    load_congr fun index _ below => same index (by omega)
  simp only [viewHeader]
  rw [field 0 1 (by decide), field 4 4 (by decide), field 8 8 (by decide), field 16 8 (by decide),
    field 24 8 (by decide)]

@[simp] theorem viewHeader_storeHeader (bytes : Bytes) (header : Header) :
    viewHeader (storeHeader bytes header) = header := by
  have stopFits : header.stop.toNat < 256 ^ 1 := by cases header.stop <;> decide
  simp only [viewHeader, storeHeader]
  rw [load_store_disjoint (by omega), load_store_disjoint (by omega), load_store_disjoint (by omega),
    load_store_disjoint (by omega), load_store _ _ stopFits,
    load_store_disjoint (by omega), load_store_disjoint (by omega), load_store_disjoint (by omega),
    load_store _ _ (typeCode_lt _),
    load_store_disjoint (by omega), load_store_disjoint (by omega), load_store _ _ (uint64_fits _),
    load_store_disjoint (by omega), load_store _ _ (uint64_fits _), load_store _ _ (uint64_fits _)]
  obtain ⟨stop, type, id, volume, acb⟩ := header
  cases stop <;> simp [typeOfCode_typeCode]

theorem storeHeader_outside (bytes : Bytes) (header : Header) {index : Nat}
    (beyond : headerSize ≤ index) : storeHeader bytes header index = bytes index := by
  simp only [headerSize] at beyond
  simp only [storeHeader, store]
  rw [Region.copy_outside (by omega), Region.copy_outside (by omega), Region.copy_outside (by omega),
    Region.copy_outside (by omega), Region.copy_outside (by omega)]

theorem viewHeader_copy (bytes src : Bytes) {start len : Nat} (beyond : headerSize ≤ start) :
    viewHeader (Region.copy bytes start src len) = viewHeader bytes :=
  viewHeader_congr fun _ below => Region.copy_outside (by omega)

@[simp] theorem viewHeader_storeRange (bytes : Bytes) (offset : Int64) (sizeInBytes : UInt64) :
    viewHeader (storeRange bytes offset sizeInBytes) = viewHeader bytes := by
  simp only [storeRange, store]
  rw [viewHeader_copy _ _ (by decide), viewHeader_copy _ _ (by decide)]

@[simp] theorem viewHeader_initOpen (bytes : Bytes) (volumeName replyMqName : Name) :
    viewHeader (initOpen bytes volumeName replyMqName) = viewHeader bytes := by
  simp only [initOpen]
  rw [viewHeader_copy _ _ (by decide), viewHeader_copy _ _ (by decide)]

/-! Offset and size of READ and WRITE. -/

@[simp] theorem viewOffset_storeRange (bytes : Bytes) (offset : Int64) (sizeInBytes : UInt64) :
    viewOffset (storeRange bytes offset sizeInBytes) = offset := by
  simp only [viewOffset, storeRange]
  rw [load_store_disjoint (by omega), load_store _ _ (uint64_fits _)]
  simp [UInt64.toInt64]

@[simp] theorem viewSize_storeRange (bytes : Bytes) (offset : Int64) (sizeInBytes : UInt64) :
    viewSize (storeRange bytes offset sizeInBytes) = sizeInBytes := by
  simp only [viewSize, storeRange]
  rw [load_store _ _ (uint64_fits _)]
  simp

theorem viewOffset_congr {left right : Bytes}
    (same : ∀ index, index < 48 → left index = right index) :
    viewOffset left = viewOffset right := by
  simp only [viewOffset]
  rw [load_congr fun index _ below => same index (by omega)]

theorem viewSize_congr {left right : Bytes}
    (same : ∀ index, index < 48 → left index = right index) :
    viewSize left = viewSize right := by
  simp only [viewSize]
  rw [load_congr fun index _ below => same index (by omega)]

/-! Reception. -/

theorem receive_inside (old : Bytes) (message : Message) {index : Nat}
    (inside : index < message.size) : receive old message index = message.bytes index :=
  Region.copy_prefix inside

theorem viewHeader_receive (old : Bytes) {message : Message} (long : headerSize ≤ message.size) :
    viewHeader (receive old message) = viewHeader message.bytes :=
  viewHeader_congr fun _ below => receive_inside old message (by omega)

theorem viewRequest_readMessage (old serverOld : Bytes) (id volume acb : UInt64) (offset : Int64)
    (sizeInBytes : UInt64) :
    viewRequest (receive serverOld (readMessage old id volume acb offset sizeInBytes)) =
      .read ⟨⟨false, .reqRead, id, volume, acb⟩, offset, sizeInBytes⟩ := by
  have inside (index : Nat) (below : index < 48) :=
    receive_inside serverOld (readMessage old id volume acb offset sizeInBytes) below
  simp only [viewRequest]
  have long : headerSize ≤ (readMessage old id volume acb offset sizeInBytes).size := by
    show 32 ≤ 48
    omega
  rw [viewHeader_receive _ long, viewOffset_congr inside, viewSize_congr inside]
  simp [readMessage]

theorem viewHeader_headerMessage (old serverOld : Bytes) (type : RequestType)
    (id volume acb : UInt64) :
    viewHeader (receive serverOld (headerMessage old type id volume acb)) =
      ⟨false, type, id, volume, acb⟩ := by
  rw [viewHeader_receive _ (Nat.le_refl headerSize)]
  simp [headerMessage]

/-- The data array is filled up to `sizeInBytes`; behind it the receiver sees leftover bytes. -/
theorem viewRequest_writeMessage (old serverOld : Bytes) (id volume acb : UInt64) (offset : Int64)
    (sizeInBytes : UInt64) (data : Bytes) (fits : sizeInBytes.toNat ≤ maxDataSize) :
    ∃ received, viewRequest (receive serverOld
        (writeMessage old id volume acb offset sizeInBytes data)) =
      .write ⟨⟨false, .reqWrite, id, volume, acb⟩, offset, sizeInBytes, received⟩ ∧
      ∀ index, index < sizeInBytes.toNat → received index = data index := by
  have inside (index : Nat) (below : index < writerequestSize) :=
    receive_inside serverOld (writeMessage old id volume acb offset sizeInBytes data) below
  have front (index : Nat) (below : index < 48) :
      receive serverOld (writeMessage old id volume acb offset sizeInBytes data) index =
        storeRange (storeHeader old ⟨false, .reqWrite, id, volume, acb⟩) offset sizeInBytes index := by
    rw [inside index (by simp only [writerequestSize]; omega)]
    exact Region.copy_outside (by omega)
  refine ⟨fun index => receive serverOld
    (writeMessage old id volume acb offset sizeInBytes data) (48 + index), ?_, ?_⟩
  · simp only [viewRequest]
    rw [viewHeader_congr fun index below => front index (by simp only [headerSize] at below; omega),
      viewOffset_congr front, viewSize_congr front]
    simp only [viewHeader_storeRange, viewHeader_storeHeader, viewOffset_storeRange,
      viewSize_storeRange, Bool.false_eq_true, if_false]
  · intro index below
    beta_reduce
    rw [inside (48 + index) (by simp only [writerequestSize]; omega)]
    exact Region.copy_add _ _ _ _ _ below

/-! The names of OPEN. -/

theorem initOpen_volumeName (bytes : Bytes) (volumeName replyMqName : Name) {index : Nat}
    (below : index < volumeName.length) (short : volumeName.length < pathMax) :
    initOpen bytes volumeName replyMqName (volumeNameStart + index) = volumeName.getD index 0 := by
  simp only [initOpen]
  rw [Region.copy_outside (by simp only [volumeNameStart, replyMqNameStart]; omega),
    Region.copy_add _ _ _ _ _ below]
  rfl

theorem initOpen_behindVolumeName (bytes : Bytes) (volumeName replyMqName : Name)
    (short : volumeName.length < pathMax) :
    initOpen bytes volumeName replyMqName (volumeNameStart + volumeName.length) =
      bytes (volumeNameStart + volumeName.length) := by
  simp only [initOpen]
  rw [Region.copy_outside (by simp only [volumeNameStart, replyMqNameStart]; omega),
    Region.copy_outside (by omega)]

theorem initOpen_replyMqName (bytes : Bytes) (volumeName replyMqName : Name) (index : Nat)
    (short : volumeName.length < pathMax) :
    initOpen bytes volumeName replyMqName (replyMqNameStart + index) =
      if index < volumeName.length then volumeName.getD index 0
      else bytes (replyMqNameStart + index) := by
  simp only [initOpen]
  by_cases below : index < volumeName.length
  · rw [Region.copy_add _ _ _ _ _ below, if_pos below]
    rfl
  · rw [Region.copy_outside (by omega), if_neg below,
      Region.copy_outside (by simp only [volumeNameStart, replyMqNameStart]; omega)]

/-- The volume name is read as it was meant exactly when the byte behind it was already zero. -/
theorem viewVolumeName_initOpen_iff (bytes : Bytes) (volumeName replyMqName : FileName) :
    viewVolumeName (initOpen bytes volumeName.bytes replyMqName.bytes) = some volumeName.bytes ↔
      bytes (volumeNameStart + volumeName.bytes.length) = 0 := by
  have short := volumeName.short
  rw [viewVolumeName, CString.read_eq_some_iff, initOpen_behindVolumeName _ _ _ short]
  constructor
  · exact fun ⟨_, _, _, terminated⟩ => terminated
  · intro terminated
    refine ⟨?_, volumeName.noNul, fun index below => initOpen_volumeName _ _ _ below short, terminated⟩
    have room : pathMax < requestSize - volumeNameStart := by decide
    omega

/-- What the sender's leftover bytes must spell for the reply-queue name to be read as it was
meant: the volume name is its first part, and the leftover bytes are the rest and a zero. -/
def ReplyMqNameCompleted (bytes : Bytes) (volumeName replyMqName : Name) : Prop :=
  ∃ rest, replyMqName = volumeName ++ rest ∧
    (∀ index, index < rest.length →
      bytes (replyMqNameStart + volumeName.length + index) = rest.getD index 0) ∧
    bytes (replyMqNameStart + replyMqName.length) = 0

theorem viewReplyMqName_initOpen_iff (bytes : Bytes) (volumeName replyMqName : FileName) :
    viewReplyMqName (initOpen bytes volumeName.bytes replyMqName.bytes) = some replyMqName.bytes ↔
      ReplyMqNameCompleted bytes volumeName.bytes replyMqName.bytes := by
  have byteAt (index : Nat) :=
    initOpen_replyMqName bytes volumeName.bytes replyMqName.bytes index volumeName.short
  have room : pathMax < requestSize - replyMqNameStart := by decide
  have short := replyMqName.short
  rw [viewReplyMqName, CString.read_eq_some_iff]
  constructor
  · rintro ⟨_, _, stands, terminated⟩
    -- A zero inside the volume name would end the reply name there, but it has none.
    have notShorter : volumeName.bytes.length ≤ replyMqName.bytes.length := by
      by_contra longer
      rw [byteAt, if_pos (by omega)] at terminated
      apply volumeName.noNul
      rw [List.getD_eq_getElem _ _ (by omega)] at terminated
      rw [← terminated]
      exact List.getElem_mem _
    have initialPart : replyMqName.bytes.take volumeName.bytes.length = volumeName.bytes := by
      apply List.ext_getElem
      · simp [notShorter]
      · intro index belowTake below
        have standsHere := stands index (by omega)
        rw [byteAt, if_pos below, List.getD_eq_getElem _ _ below,
          List.getD_eq_getElem _ _ (by omega)] at standsHere
        simp [standsHere]
    refine ⟨replyMqName.bytes.drop volumeName.bytes.length, ?_, ?_, ?_⟩
    · conv_lhs => rw [← List.take_append_drop volumeName.bytes.length replyMqName.bytes]
      rw [initialPart]
    · intro index below
      rw [List.length_drop] at below
      have standsHere := stands (volumeName.bytes.length + index) (by omega)
      rw [byteAt, if_neg (by omega)] at standsHere
      simpa [Nat.add_assoc, List.getD_eq_getElem?_getD] using standsHere
    · rw [byteAt, if_neg (by omega)] at terminated
      exact terminated
  · rintro ⟨rest, joined, leftover, terminated⟩
    have lengths : replyMqName.bytes.length = volumeName.bytes.length + rest.length := by
      rw [joined, List.length_append]
    refine ⟨by omega, replyMqName.noNul, ?_, ?_⟩
    · intro index below
      rw [byteAt, joined]
      by_cases inVolumeName : index < volumeName.bytes.length
      · rw [if_pos inVolumeName, List.getD_append _ _ _ _ inVolumeName]
      · rw [if_neg inVolumeName, List.getD_append_right _ _ _ _ (by omega),
          ← leftover (index - volumeName.bytes.length) (by omega)]
        congr 1
        omega
    · rw [byteAt, if_neg (by omega)]
      exact terminated

/-! All request kinds together. -/

/-- One request with the arguments its `send_*` function was given. -/
inductive Sent
  | openVolume (volumeName replyMqName : FileName)
  | read (offset : Int64) (sizeInBytes : UInt64)
  | write (offset : Int64) (sizeInBytes : UInt64) (data : Bytes)
      (fits : sizeInBytes.toNat ≤ maxDataSize)
  | close
  | getsize
  | fsync

/-- The message built over the request buffer `old`. -/
def Sent.message (old : Bytes) (id volume acb : UInt64) : Sent → Message
  | .openVolume volumeName replyMqName =>
      openMessage old id volume acb volumeName.bytes replyMqName.bytes
  | .read offset sizeInBytes => readMessage old id volume acb offset sizeInBytes
  | .write offset sizeInBytes data _ => writeMessage old id volume acb offset sizeInBytes data
  | .close => headerMessage old .reqClose id volume acb
  | .getsize => headerMessage old .reqGetsize id volume acb
  | .fsync => headerMessage old .reqFsync id volume acb

/-- The handler of the right kind runs and reads the arguments. -/
def Sent.ReadBack (id volume acb : UInt64) : Sent → Request → Prop
  | .openVolume volumeName replyMqName, request =>
      request = .openVolume ⟨⟨false, .reqOpen, id, volume, acb⟩, some volumeName.bytes,
        some replyMqName.bytes⟩
  | .read offset sizeInBytes, request =>
      request = .read ⟨⟨false, .reqRead, id, volume, acb⟩, offset, sizeInBytes⟩
  | .write offset sizeInBytes data _, request => ∃ received,
      request = .write ⟨⟨false, .reqWrite, id, volume, acb⟩, offset, sizeInBytes, received⟩ ∧
        ∀ index, index < sizeInBytes.toNat → received index = data index
  | .close, request => request = .close ⟨⟨false, .reqClose, id, volume, acb⟩⟩
  | .getsize, request => request = .getsize ⟨⟨false, .reqGetsize, id, volume, acb⟩⟩
  | .fsync, request => request = .fsync ⟨⟨false, .reqFsync, id, volume, acb⟩⟩

/-- For OPEN, the leftover bytes of the request buffer complete both names. -/
def Sent.NamesCompleted (old : Bytes) : Sent → Prop
  | .openVolume volumeName replyMqName =>
      old (volumeNameStart + volumeName.bytes.length) = 0 ∧
        ReplyMqNameCompleted old volumeName.bytes replyMqName.bytes
  | _ => True

theorem receive_openMessage (old serverOld : Bytes) (id volume acb : UInt64)
    (volumeName replyMqName : Name) :
    viewRequest (receive serverOld (openMessage old id volume acb volumeName replyMqName)) =
      .openVolume ⟨⟨false, .reqOpen, id, volume, acb⟩,
        viewVolumeName (receive serverOld (openMessage old id volume acb volumeName replyMqName)),
        viewReplyMqName (receive serverOld (openMessage old id volume acb volumeName replyMqName))⟩ := by
  have long : headerSize ≤ (openMessage old id volume acb volumeName replyMqName).size := by
    show 32 ≤ 32 + 4096 + 4096
    omega
  simp only [viewRequest]
  rw [viewHeader_receive _ long]
  simp [openMessage]

/-- Both names lie inside the transmitted bytes, so the server's old buffer has no say. -/
theorem openMessage_names_iff (old serverOld : Bytes) (id volume acb : UInt64)
    (volumeName replyMqName : FileName) :
    let received := receive serverOld
      (openMessage old id volume acb volumeName.bytes replyMqName.bytes)
    (viewVolumeName received = some volumeName.bytes ∧
        viewReplyMqName received = some replyMqName.bytes) ↔
      old (volumeNameStart + volumeName.bytes.length) = 0 ∧
        ReplyMqNameCompleted old volumeName.bytes replyMqName.bytes := by
  have volumeShort := volumeName.short
  have replyShort := replyMqName.short
  have inside (index : Nat) (below : index < openrequestSize) :=
    receive_inside serverOld
      (openMessage old id volume acb volumeName.bytes replyMqName.bytes) below
  have fits : replyMqNameStart + pathMax = openrequestSize := by decide
  have order : volumeNameStart ≤ replyMqNameStart := by decide
  intro received
  have volumeRead : viewVolumeName received = some volumeName.bytes ↔ _ :=
    CString.read_eq_some_congr fun index below => inside _ (by omega)
  have replyRead : viewReplyMqName received = some replyMqName.bytes ↔ _ :=
    CString.read_eq_some_congr fun index below => inside _ (by omega)
  rw [volumeRead, replyRead]
  have volumeIff := viewVolumeName_initOpen_iff
    (storeHeader old ⟨false, .reqOpen, id, volume, acb⟩) volumeName replyMqName
  have replyIff := viewReplyMqName_initOpen_iff
    (storeHeader old ⟨false, .reqOpen, id, volume, acb⟩) volumeName replyMqName
  have behindHeader (index : Nat) (beyond : headerSize ≤ index) :
      storeHeader old ⟨false, .reqOpen, id, volume, acb⟩ index = old index :=
    storeHeader_outside _ _ beyond
  have replyBehind : headerSize ≤ replyMqNameStart := by decide
  rw [behindHeader (volumeNameStart + volumeName.bytes.length) (Nat.le_add_right _ _)] at volumeIff
  have completedIff : ReplyMqNameCompleted (storeHeader old ⟨false, .reqOpen, id, volume, acb⟩)
      volumeName.bytes replyMqName.bytes ↔
        ReplyMqNameCompleted old volumeName.bytes replyMqName.bytes := by
    refine exists_congr fun rest => and_congr_right fun _ => and_congr ?_ ?_
    · refine forall_congr' fun index => forall_congr' fun _ => ?_
      rw [behindHeader _ (by omega)]
    · rw [behindHeader _ (by omega)]
  rw [completedIff] at replyIff
  exact and_congr volumeIff replyIff

/-- A handler reads the arguments of the request it is given, whatever the client's and the
server's buffers held before, unless the request is an OPEN: `init` terminates neither name and
never copies the reply-queue name, so OPEN depends on the leftover bytes of the client's buffer. -/
theorem Sent.readBack_iff (sent : Sent) (clientOld serverOld : Bytes) (id volume acb : UInt64) :
    sent.ReadBack id volume acb
        (viewRequest (receive serverOld (sent.message clientOld id volume acb))) ↔
      sent.NamesCompleted clientOld := by
  cases sent with
  | openVolume volumeName replyMqName =>
      simp only [Sent.ReadBack, Sent.message, Sent.NamesCompleted, receive_openMessage,
        Request.openVolume.injEq, OpenRequest.mk.injEq, true_and]
      exact openMessage_names_iff clientOld serverOld id volume acb volumeName replyMqName
  | read offset sizeInBytes =>
      simp only [Sent.ReadBack, Sent.message, Sent.NamesCompleted, viewRequest_readMessage]
  | write offset sizeInBytes data fits =>
      simp only [Sent.ReadBack, Sent.message, Sent.NamesCompleted, iff_true]
      exact viewRequest_writeMessage clientOld serverOld id volume acb offset sizeInBytes data fits
  | close =>
      simp [Sent.ReadBack, Sent.message, Sent.NamesCompleted, viewRequest, viewHeader_headerMessage]
  | getsize =>
      simp [Sent.ReadBack, Sent.message, Sent.NamesCompleted, viewRequest, viewHeader_headerMessage]
  | fsync =>
      simp [Sent.ReadBack, Sent.message, Sent.NamesCompleted, viewRequest, viewHeader_headerMessage]

/-- A volume called `v`, opened from a buffer in which an `x` is left over everywhere. -/
def shortName : FileName := ⟨[118], by decide, by decide, by decide⟩

theorem open_notReadBack : ¬∀ (sent : Sent) (clientOld serverOld : Bytes) (id volume acb : UInt64),
    sent.ReadBack id volume acb
      (viewRequest (receive serverOld (sent.message clientOld id volume acb))) := by
  intro everyRequest
  have read := everyRequest (.openVolume shortName shortName) (fun _ => 120) (fun _ => 0) 1 0 0
  simp only [Sent.ReadBack, Sent.message, receive_openMessage, Request.openVolume.injEq,
    OpenRequest.mk.injEq, true_and] at read
  have completed := (openMessage_names_iff _ _ _ _ _ shortName shortName).mp read
  exact absurd completed.1 (by decide)

end Wire

end Cvbd
