import XsNexus.ByteCodec
import XsNexus.ByteMemory

namespace Netlink

open ByteCodec ByteMemory

/-- The order of the bytes of a number on the host. -/
inductive ByteOrder
  | little | big
deriving DecidableEq

def neBytes : ByteOrder → Nat → Nat → Bytes
  | .little => leBytes
  | .big => beBytes

def neNat : ByteOrder → Bytes → Nat
  | .little => leNat
  | .big => beNat

variable {order : ByteOrder}

@[simp] theorem length_neBytes (order : ByteOrder) (count value : Nat) :
    (neBytes order count value).length = count := by
  cases order with
  | little => exact length_leBytes count value
  | big => exact length_beBytes count value

theorem neNat_neBytes {count value : Nat} (h : value < 256 ^ count) :
    neNat order (neBytes order count value) = value := by
  cases order with
  | little => exact leNat_leBytes h
  | big => exact (beNat_beBytes count value).trans (Nat.mod_eq_of_lt h)

/-- A number in the bytes of a message -/
def number (order : ByteOrder) (bytes : Bytes) (offset count : Nat) : Nat :=
  neNat order ((bytes.drop offset).take count)

def align4 (length : Nat) : Nat := (length + 3) / 4 * 4

theorem le_align4 (length : Nat) : length ≤ align4 length := by
  unfold align4
  omega

theorem align4_lt (length : Nat) : align4 length < length + 4 := by
  unfold align4
  omega

def padding (length : Nat) : Bytes := List.replicate (align4 length - length) 0

@[simp] theorem length_padding (length : Nat) : (padding length).length = align4 length - length :=
  List.length_replicate

/-- An attribute holds bytes or other attributes. -/
inductive Attribute
  | leaf (type : Nat) (value : Bytes)
  | nested (type : Nat) (children : List Attribute)

/-- The flag in the type of an attribute that holds others. -/
def nestedFlag : Nat := 2 ^ 15

/-- The length, the type and the value, filled up to a multiple of four. The length is without the
padding. -/
def encodeAttribute (order : ByteOrder) (type : Nat) (value : Bytes) : Bytes :=
  neBytes order 2 (4 + value.length) ++ neBytes order 2 type ++ value ++ padding (4 + value.length)

mutual

def Attribute.encode (order : ByteOrder) : Attribute → Bytes
  | .leaf type value => encodeAttribute order type value
  | .nested type children => encodeAttribute order (type + nestedFlag) (encodeAll order children)

def encodeAll (order : ByteOrder) : List Attribute → Bytes
  | [] => []
  | item :: attributes => item.encode order ++ encodeAll order attributes

end

/-- The attributes that stand in some bytes, one behind the other; `none` where a length leads beyond
them. -/
def parseFrom (order : ByteOrder) : Nat → Bytes → Option (List Attribute)
  | 0, _ => none
  | fuel + 1, bytes =>
    if bytes = [] then some []
    else
      let length := number order bytes 0 2
      let type := number order bytes 2 2
      if bytes.length < 4 ∨ length < 4 ∨ bytes.length < align4 length then none
      else
        let value := (bytes.take length).drop 4
        let item :=
          if nestedFlag ≤ type then (parseFrom order fuel value).map (.nested (type - nestedFlag))
          else some (.leaf type value)
        item.bind fun item => (parseFrom order fuel (bytes.drop (align4 length))).map (item :: ·)

def parse (order : ByteOrder) (bytes : Bytes) : Option (List Attribute) :=
  parseFrom order (bytes.length + 1) bytes

mutual

/-- The type leaves the flag free, and the length fits its field. -/
def Attribute.Fits (order : ByteOrder) : Attribute → Prop
  | .leaf type value => type < nestedFlag ∧ 4 + value.length < 2 ^ 16
  | .nested type children =>
    type < nestedFlag ∧ 4 + (encodeAll order children).length < 2 ^ 16 ∧ AllFit order children

def AllFit (order : ByteOrder) : List Attribute → Prop
  | [] => True
  | item :: attributes => item.Fits order ∧ AllFit order attributes

end

@[simp] theorem length_encodeAttribute (order : ByteOrder) (type : Nat) (value : Bytes) :
    (encodeAttribute order type value).length = align4 (4 + value.length) := by
  have hle := le_align4 (4 + value.length)
  simp only [encodeAttribute, List.length_append, length_neBytes, length_padding]
  omega

theorem encodeAll_append (order : ByteOrder) (first second : List Attribute) :
    encodeAll order (first ++ second) = encodeAll order first ++ encodeAll order second := by
  induction first with
  | nil => rfl
  | cons item attributes ih => rw [List.cons_append, encodeAll, encodeAll, ih, List.append_assoc]

/-- What a parser reads of an attribute in front of others. -/
theorem encodeAttribute_read {type : Nat} {value rest : Bytes} (htype : type < 2 ^ 16)
    (hlength : 4 + value.length < 2 ^ 16) :
    let bytes := encodeAttribute order type value ++ rest
    number order bytes 0 2 = 4 + value.length ∧ number order bytes 2 2 = type ∧
      (bytes.take (4 + value.length)).drop 4 = value ∧ bytes.drop (align4 (4 + value.length)) = rest := by
  intro bytes
  have hbytes : bytes = neBytes order 2 (4 + value.length) ++ (neBytes order 2 type ++
      (value ++ (padding (4 + value.length) ++ rest))) := by
    simp only [bytes, encodeAttribute, List.append_assoc]
  refine ⟨?_, ?_, ?_, ?_⟩
  · rw [number, List.drop_zero, hbytes, List.take_left' (length_neBytes order 2 _)]
    exact neNat_neBytes hlength
  · rw [number, hbytes, List.drop_left' (length_neBytes order 2 _), List.take_left' (length_neBytes order 2 _)]
    exact neNat_neBytes htype
  · have hfront : (neBytes order 2 (4 + value.length) ++ neBytes order 2 type).length = 4 := by simp
    rw [hbytes, ← List.append_assoc, ← List.append_assoc _ value, List.take_left' (by
      rw [List.length_append, hfront]), List.drop_left' hfront]
  · exact List.drop_left' (length_encodeAttribute order type value)

theorem allFit_append {first second : List Attribute} (hfirst : AllFit order first)
    (hsecond : AllFit order second) : AllFit order (first ++ second) := by
  induction first with
  | nil => exact hsecond
  | cons item attributes ih =>
    obtain ⟨hitem, hattributes⟩ := hfirst
    exact ⟨hitem, ih hattributes⟩

/-- Attributes fill their bytes up to a multiple of four. -/
theorem encodeAll_aligned (attributes : List Attribute) : (encodeAll order attributes).length % 4 = 0 := by
  induction attributes with
  | nil => rfl
  | cons item attributes ih =>
    have hitem : (item.encode order).length % 4 = 0 := by
      cases item with
      | leaf type value =>
        rw [Attribute.encode, length_encodeAttribute, align4]
        omega
      | nested type children =>
        rw [Attribute.encode, length_encodeAttribute, align4]
        omega
    rw [encodeAll, List.length_append]
    omega

theorem length_encodeAll_cons (order : ByteOrder) (item : Attribute) (attributes : List Attribute) :
    (encodeAll order (item :: attributes)).length =
      (item.encode order).length + (encodeAll order attributes).length := by
  rw [encodeAll, List.length_append]

/-- The parser reads what the encoder writes: on the fuel, which covers the attributes and what they hold. -/
theorem parseFrom_encodeAll {fuel : Nat} {attributes : List Attribute} (h : AllFit order attributes)
    (hfuel : (encodeAll order attributes).length < fuel) :
    parseFrom order fuel (encodeAll order attributes) = some attributes := by
  induction fuel generalizing attributes with
  | zero => omega
  | succ fuel ih =>
    cases attributes with
    | nil => rfl
    | cons item attributes =>
      obtain ⟨hattribute, hattributes⟩ := h
      rw [length_encodeAll_cons] at hfuel
      have hparsed : ∀ {type : Nat} {value : Bytes}, item.encode order = encodeAttribute order type value →
          type < 2 ^ 16 → 4 + value.length < 2 ^ 16 →
          (if nestedFlag ≤ type then (parseFrom order fuel value).map (.nested (type - nestedFlag))
            else some (.leaf type value)) = some item →
          parseFrom order (fuel + 1) (encodeAll order (item :: attributes)) =
            some (item :: attributes) := by
        intro type value hencode htype hlength hone
        rw [hencode, length_encodeAttribute] at hfuel
        have hle := le_align4 (4 + value.length)
        obtain ⟨hread, hreadType, hvalue, hrest⟩ :=
          @encodeAttribute_read order type value (encodeAll order attributes) htype hlength
        have htotal : (encodeAttribute order type value ++ encodeAll order attributes).length =
            align4 (4 + value.length) + (encodeAll order attributes).length := by
          rw [List.length_append, length_encodeAttribute]
        have hne : encodeAttribute order type value ++ encodeAll order attributes ≠ [] := by
          intro hnil
          rw [hnil, List.length_nil] at htotal
          omega
        rw [encodeAll, hencode, parseFrom, if_neg hne]
        dsimp only
        rw [hread, hreadType, hvalue, hrest, if_neg (by omega), hone, ih hattributes (by omega)]
        rfl
      cases item with
      | leaf type value =>
        obtain ⟨htype, hlength⟩ := hattribute
        unfold nestedFlag at htype
        exact hparsed rfl (by omega) hlength (if_neg (by unfold nestedFlag; omega))
      | nested type children =>
        obtain ⟨htype, hlength, hchildren⟩ := hattribute
        have hsize : (Attribute.encode order (.nested type children)).length =
            align4 (4 + (encodeAll order children).length) := by
          rw [Attribute.encode, length_encodeAttribute]
        have hle := le_align4 (4 + (encodeAll order children).length)
        have hflag : nestedFlag ≤ type + nestedFlag := Nat.le_add_left _ _
        refine hparsed rfl (by unfold nestedFlag at htype ⊢; omega) hlength ?_
        rw [if_pos hflag, ih hchildren (by omega), Option.map_some, Nat.add_sub_cancel]

theorem parse_encodeAll {attributes : List Attribute} (h : AllFit order attributes) :
    parse order (encodeAll order attributes) = some attributes := parseFrom_encodeAll h (Nat.lt_succ_self _)

/-- A message of sixteen bytes and its payload -/
structure Message where
  type : Nat
  flags : Nat
  sequence : Nat
  port : Nat
  payload : Bytes
deriving DecidableEq

namespace Message

def length (message : Message) : Nat := 16 + message.payload.length

def encode (order : ByteOrder) (message : Message) : Bytes :=
  neBytes order 4 message.length ++ neBytes order 2 message.type ++ neBytes order 2 message.flags ++
    neBytes order 4 message.sequence ++ neBytes order 4 message.port ++ message.payload ++
    padding message.length

/-- The numbers fit their fields. -/
structure Fits (message : Message) : Prop where
  length : message.length < 2 ^ 32
  type : message.type < 2 ^ 16
  flags : message.flags < 2 ^ 16
  sequence : message.sequence < 2 ^ 32
  port : message.port < 2 ^ 32

/-- The message that the first bytes hold -/
def read (order : ByteOrder) (bytes : Bytes) : Message where
  type := number order bytes 4 2
  flags := number order bytes 6 2
  sequence := number order bytes 8 4
  port := number order bytes 12 4
  payload := (bytes.take (number order bytes 0 4)).drop 16

end Message

/-- The well-formed messages that some bytes begin with, and whether another one stands behind them that is
not: one whose length leads beyond the bytes, or is too short for its own header. -/
def messagesFrom (order : ByteOrder) : Nat → Bytes → List Message × Bool
  | 0, _ => ([], false)
  | fuel + 1, bytes =>
    if bytes.length < 16 then ([], false)
    else if number order bytes 0 4 < 16 ∨ bytes.length < number order bytes 0 4 then ([], true)
    else
      let rest := messagesFrom order fuel (bytes.drop (align4 (number order bytes 0 4)))
      (Message.read order bytes :: rest.1, rest.2)

def messages (order : ByteOrder) (bytes : Bytes) : List Message × Bool :=
  messagesFrom order (bytes.length + 1) bytes

namespace Message

variable {message : Message}

@[simp] theorem length_encode (order : ByteOrder) (message : Message) :
    (message.encode order).length = align4 message.length := by
  have hle := le_align4 message.length
  simp only [encode, List.length_append, length_neBytes, length_padding]
  unfold Message.length at hle ⊢
  omega

theorem read_encode (h : message.Fits) (rest : Bytes) :
    number order (message.encode order ++ rest) 0 4 = message.length ∧
      read order (message.encode order ++ rest) = message ∧
      (message.encode order ++ rest).drop (align4 message.length) = rest := by
  have hbytes : message.encode order ++ rest = neBytes order 4 message.length ++ (neBytes order 2 message.type ++
      (neBytes order 2 message.flags ++ (neBytes order 4 message.sequence ++ (neBytes order 4 message.port ++
        (message.payload ++ (padding message.length ++ rest)))))) := by
    simp only [encode, List.append_assoc]
  have hnumber : ∀ (front behind : Bytes) {offset count value : Nat},
      message.encode order ++ rest = front ++ (neBytes order count value ++ behind) → front.length = offset →
      value < 256 ^ count → number order (message.encode order ++ rest) offset count = value := by
    intro front behind offset count value hsplit hfront hvalue
    rw [number, hsplit, List.drop_left' hfront, List.take_left' (length_neBytes order count value)]
    exact neNat_neBytes hvalue
  have hlength := @hnumber [] _ 0 4 message.length hbytes rfl h.length
  have htype := @hnumber (neBytes order 4 message.length) _ 4 2 message.type hbytes (by simp) h.type
  have hflags := @hnumber (neBytes order 4 message.length ++ neBytes order 2 message.type) _ 6 2 message.flags
    (by rw [hbytes]; simp only [List.append_assoc]; rfl) (by simp) h.flags
  have hsequence := @hnumber (neBytes order 4 message.length ++ neBytes order 2 message.type ++
    neBytes order 2 message.flags) _ 8 4 message.sequence
    (by rw [hbytes]; simp only [List.append_assoc]; rfl) (by simp) h.sequence
  have hport := @hnumber (neBytes order 4 message.length ++ neBytes order 2 message.type ++
    neBytes order 2 message.flags ++ neBytes order 4 message.sequence) _ 12 4 message.port
    (by rw [hbytes]; simp only [List.append_assoc]; rfl) (by simp) h.port
  have hfront : (neBytes order 4 message.length ++ neBytes order 2 message.type ++
    neBytes order 2 message.flags ++ neBytes order 4 message.sequence ++
    neBytes order 4 message.port).length = 16 := by simp
  have hpayload : ((message.encode order ++ rest).take message.length).drop 16 = message.payload := by
    have hsplit : message.encode order ++ rest = (neBytes order 4 message.length ++ neBytes order 2 message.type ++
        neBytes order 2 message.flags ++ neBytes order 4 message.sequence ++ neBytes order 4 message.port ++
        message.payload) ++ (padding message.length ++ rest) := by
      rw [hbytes]
      simp only [List.append_assoc]
    rw [hsplit, List.take_left' (by rw [List.length_append, hfront]; rfl), List.drop_left' hfront]
  refine ⟨hlength, ?_, List.drop_left' (length_encode order message)⟩
  rw [read, hlength, htype, hflags, hsequence, hport, hpayload]

end Message

/-- Messages are read back from their bytes. -/
theorem messagesFrom_encode {fuel : Nat} {list : List Message} (h : ∀ message ∈ list, message.Fits)
    (hfuel : (list.flatMap (Message.encode order)).length < fuel) :
    messagesFrom order fuel (list.flatMap (Message.encode order)) = (list, false) := by
  induction list generalizing fuel with
  | nil =>
    cases fuel with
    | zero => omega
    | succ fuel => rfl
  | cons message list ih =>
    obtain ⟨hmessage, hlist⟩ := List.forall_mem_cons.mp h
    obtain ⟨hlength, hread, hrest⟩ :=
      @Message.read_encode order message hmessage (list.flatMap (Message.encode order))
    have hle := le_align4 message.length
    have hlong : 16 ≤ message.length := Nat.le_add_right _ _
    rw [List.flatMap_cons, List.length_append, Message.length_encode] at hfuel
    have htotal : (message.encode order ++ list.flatMap (Message.encode order)).length =
        align4 message.length + (list.flatMap (Message.encode order)).length := by
      rw [List.length_append, Message.length_encode]
    cases fuel with
    | zero => omega
    | succ fuel =>
      rw [List.flatMap_cons, messagesFrom, if_neg (by omega), hlength, if_neg (by omega)]
      dsimp only
      rw [hrest, hread, ih hlist (by omega)]

theorem messages_encode {list : List Message} (h : ∀ message ∈ list, message.Fits) :
    messages order (list.flatMap (Message.encode order)) = (list, false) :=
  messagesFrom_encode h (Nat.lt_succ_self _)

/-- The fuel does not matter once it covers the bytes. -/
theorem messagesFrom_fuel {fuel other : Nat} {bytes : Bytes} (h : bytes.length < fuel)
    (hother : bytes.length < other) : messagesFrom order fuel bytes = messagesFrom order other bytes := by
  induction fuel generalizing other bytes with
  | zero => omega
  | succ fuel ih =>
    cases other with
    | zero => omega
    | succ other =>
      rw [messagesFrom, messagesFrom]
      split
      next => rfl
      split
      next => rfl
      next hlength =>
        have hle := le_align4 (number order bytes 0 4)
        have hdrop : (bytes.drop (align4 (number order bytes 0 4))).length + 16 ≤ bytes.length := by
          rw [List.length_drop]
          omega
        rw [@ih other (bytes.drop (align4 (number order bytes 0 4))) (by omega) (by omega)]

end Netlink
