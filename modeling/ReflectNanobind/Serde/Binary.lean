import ReflectNanobind.Library.Program
import ReflectNanobind.Serde.Objects

/-!
# The binary writer and reader

`write`, `read`, `to_bytes` and `from_bytes` of `serialize_poc.cpp`.  The writer grows a vector; the
reader is a program over memory whose one request is a `memcpy` from an address, so that its trace is
the list of its accesses.  The two are inverse to each other on every aggregate, and the reader stays
inside the buffer exactly when the buffer holds the whole encoding: the end pointer is handed down but
never compared.
-/

namespace ReflectNanobind.Serde

open Library

/-! ## The writer -/

def write {members : Members} (buf : List UInt8) (obj : Object members) : List UInt8 :=
  match obj with
  | .nil => buf
  | .scalar field others => write (buf ++ field.toList) others
  | .aggregate field others => write (write buf field) others

def toBytes {members : Members} (obj : Object members) : List UInt8 := write [] obj

/-- The writer appends the fields' bytes in declaration order. -/
theorem write_eq {members : Members} (buf : List UInt8) (obj : Object members) :
    write buf obj = buf ++ obj.leaves.flatten := by
  induction obj generalizing buf with
  | nil => simp [write, Object.leaves]
  | scalar field others ih => simp [write, Object.leaves, ih]
  | aggregate field others ihField ihOthers =>
      simp [write, Object.leaves, ihField, ihOthers]

/-! ## The reader -/

/-- The source of a `memcpy`. -/
structure Load where
  address : ℕ
  size : ℕ
  deriving DecidableEq, Repr

abbrev Reader := Program Load fun load ↦ Bytes load.size

/-- `std::memcpy(&field, cur, size)`. -/
def memcpy (cur size : ℕ) : Reader (Bytes size) := Program.ask (Load.mk cur size)

/-- `read(cur, end, obj)`: the fields that were read and the moved cursor. -/
def read : {members : Members} → (cur stop : ℕ) → Object members → Reader (Object members × ℕ)
  | _, cur, _, .nil => pure (.nil, cur)
  | .scalar _ type _, cur, stop, .scalar _ others => do
      let field ← memcpy cur type.size
      let (others, cur) ← read (cur + type.size) stop others
      pure (.scalar field others, cur)
  | _, cur, stop, .aggregate field others => do
      let (field, cur) ← read cur stop field
      let (others, cur) ← read cur stop others
      pure (.aggregate field others, cur)

/-- `from_bytes` for a buffer whose bytes start at the address `data`. -/
def fromBytes (members : Members) (data : ℕ) (buf : List UInt8) : Reader (Object members) := do
  let (obj, _) ← read data (data + buf.length) (Object.zero members)
  pure obj

/-! ## Memory -/

abbrev Memory := ℕ → UInt8

/-- The bytes of memory from an address on. -/
def Memory.bytes (memory : Memory) (address size : ℕ) : Bytes size :=
  Vector.ofFn fun index ↦ memory (address + index)

def Memory.handler (memory : Memory) :
    Program.Handler Load (fun load ↦ Bytes load.size) Unit :=
  fun load world ↦ (memory.bytes load.address load.size, world)

/-- These bytes lie in memory from the address on. -/
def Holds (memory : Memory) (address : ℕ) (bytes : List UInt8) : Prop :=
  ∀ (index : ℕ) (h : index < bytes.length), memory (address + index) = bytes[index]

theorem holds_append {memory : Memory} {address : ℕ} {first second : List UInt8} :
    Holds memory address (first ++ second) ↔
      Holds memory address first ∧ Holds memory (address + first.length) second := by
  constructor
  · intro h
    constructor
    · intro index hindex
      rw [h index (by simp; omega), List.getElem_append_left hindex]
    · intro index hindex
      rw [Nat.add_assoc, h (first.length + index) (by simp; omega),
        List.getElem_append_right (by omega)]
      simp
  · rintro ⟨hfirst, hsecond⟩ index hindex
    rcases Nat.lt_or_ge index first.length with hlt | hge
    · rw [hfirst index hlt, List.getElem_append_left hlt]
    · have hrest := hsecond (index - first.length) (by simp at hindex; omega)
      rw [List.getElem_append_right hge, ← hrest]
      congr 1
      omega

theorem Memory.bytes_eq_iff {memory : Memory} {address size : ℕ} {bytes : Bytes size} :
    memory.bytes address size = bytes ↔ Holds memory address bytes.toList := by
  constructor
  · rintro rfl index hindex
    simp [Memory.bytes]
  · intro h
    apply Vector.ext
    intro index hindex
    have hbyte := h index (by simpa using hindex)
    simpa [Memory.bytes] using hbyte

/-! ## Runs of the reader -/

section Runs

variable (memory : Memory) {members : Members}

/-- The object that lies in memory from the address on. -/
def Object.at (memory : Memory) : (members : Members) → (address : ℕ) → Object members
  | .nil, _ => .nil
  | .scalar _ type rest, address =>
      .scalar (memory.bytes address type.size) (Object.at memory rest (address + type.size))
  | .aggregate _ inner rest, address =>
      .aggregate (Object.at memory inner address)
        (Object.at memory rest (address + inner.encodedSize))

/-- The reader replaces every field and moves its cursor by the encoded size. -/
theorem read_run (cur stop : ℕ) (obj : Object members) :
    (read cur stop obj).run memory.handler () =
      ((Object.at memory members cur, cur + members.encodedSize), ()) := by
  induction obj generalizing cur with
  | nil => rfl
  | scalar field others ih =>
      simp [read, memcpy, Memory.handler, ih, Object.at, Members.encodedSize, Nat.add_assoc]
  | aggregate field others ihField ihOthers =>
      simp [read, ihField, ihOthers, Object.at, Members.encodedSize, Nat.add_assoc]

theorem fromBytes_run (data : ℕ) (buf : List UInt8) :
    (fromBytes members data buf).run memory.handler () = (Object.at memory members data, ()) := by
  simp [fromBytes, read_run]

/-- What lies in memory is the object exactly when its bytes do. -/
theorem at_eq_iff (address : ℕ) (obj : Object members) :
    Object.at memory members address = obj ↔ Holds memory address obj.leaves.flatten := by
  induction obj generalizing address with
  | nil => simp [Object.at, Object.leaves, Holds]
  | scalar field others ih =>
      simp [Object.at, Object.leaves, holds_append, ih, Memory.bytes_eq_iff]
  | aggregate field others ihField ihOthers =>
      rw [Object.leaves, List.flatten_append, holds_append, Object.length_leaves, Object.at,
        Object.aggregate.injEq, ihField, ihOthers]

/-! ## Accesses -/

/-- The accesses of the reader: one for each field, next to one another. -/
def Members.loads : Members → ℕ → List Load
  | .nil, _ => []
  | .scalar _ type rest, address => ⟨address, type.size⟩ :: rest.loads (address + type.size)
  | .aggregate _ inner rest, address =>
      inner.loads address ++ rest.loads (address + inner.encodedSize)

theorem read_trace (cur stop : ℕ) (obj : Object members) :
    ((read cur stop obj).trace memory.handler ()).map Prod.fst = members.loads cur := by
  induction obj generalizing cur with
  | nil => rfl
  | scalar field others ih => simp [read, memcpy, Members.loads, ih]
  | aggregate field others ihField ihOthers =>
      simp [read, read_run, Members.loads, ihField, ihOthers]

theorem fromBytes_trace (data : ℕ) (buf : List UInt8) :
    ((fromBytes members data buf).trace memory.handler ()).map Prod.fst = members.loads data := by
  simp [fromBytes, read_trace]

theorem Members.le_address_of_mem_loads {address : ℕ} {load : Load}
    (h : load ∈ members.loads address) : address ≤ load.address := by
  induction members generalizing address with
  | nil => cases h
  | scalar name type rest ih =>
      rcases List.mem_cons.mp h with rfl | hrest
      · exact le_refl _
      · exact Nat.le_trans (Nat.le_add_right _ _) (ih hrest)
  | aggregate name inner rest ihInner ihRest =>
      rcases List.mem_append.mp h with hinner | hrest
      · exact ihInner hinner
      · exact Nat.le_trans (Nat.le_add_right _ _) (ihRest hrest)

/-- The last access ends where the encoding ends. -/
theorem Members.loads_end_le_iff {address limit : ℕ} (h : address ≤ limit) :
    (∀ load ∈ members.loads address, load.address + load.size ≤ limit) ↔
      address + members.encodedSize ≤ limit := by
  induction members generalizing address with
  | nil => simpa [loads, encodedSize] using h
  | scalar name type rest ih =>
      rw [loads, List.forall_mem_cons, encodedSize, ← Nat.add_assoc]
      constructor
      · rintro ⟨hfield, hrest⟩
        exact (ih hfield).mp hrest
      · intro hall
        have hfield : address + type.size ≤ limit := Nat.le_trans (Nat.le_add_right _ _) hall
        exact ⟨hfield, (ih hfield).mpr hall⟩
  | aggregate name inner rest ihInner ihRest =>
      rw [loads, List.forall_mem_append, encodedSize, ← Nat.add_assoc, ihInner h]
      constructor
      · rintro ⟨hinner, hrest⟩
        exact (ihRest hinner).mp hrest
      · intro hall
        have hinner : address + inner.encodedSize ≤ limit := Nat.le_trans (Nat.le_add_right _ _) hall
        exact ⟨hinner, (ihRest hinner).mpr hall⟩

end Runs

/-! ## Round trips -/

/-- An entity with id 1337, alive, at (1.5, -2.0, 0.25), of health 87.5. -/
def demoEntity : Object entity :=
  .scalar #v[0x39, 0x05, 0, 0] <|
    .scalar #v[1] <|
      .aggregate
        (.scalar #v[0, 0, 0, 0, 0, 0, 0xf8, 0x3f] <|
          .scalar #v[0, 0, 0, 0, 0, 0, 0, 0xc0] <|
            .scalar #v[0, 0, 0, 0, 0, 0, 0xd0, 0x3f] .nil) <|
        .scalar #v[0, 0, 0xaf, 0x42] .nil

/-- A byte, the encoded entity from address 65 on, and a byte after it. -/
def demoMemory : Memory := fun address ↦
  (write [7] demoEntity ++ [9]).getD (address - 64) 0

/-- Writer and reader are inverse to each other: the writer appends the fields' bytes, as many as the
shape alone says; the reader restores them from memory and stops at what follows; and a buffer of the
encoded size comes back from the object that was read from it. -/
theorem binary_round_trip (members : Members) (memory : Memory) (data : ℕ) :
    (∀ (obj : Object members) (buf suffix : List UInt8),
      write buf obj = buf ++ obj.leaves.flatten ∧
        obj.leaves.flatten.length = members.encodedSize ∧
        (Holds memory data (write buf obj ++ suffix) → ∀ (stop : ℕ) (old : Object members),
          ((read (data + buf.length) stop old).run memory.handler ()).1 =
            (obj, data + (write buf obj).length))) ∧
      ∀ buf : List UInt8, buf.length = members.encodedSize → Holds memory data buf →
        toBytes ((fromBytes members data buf).run memory.handler ()).1 = buf := by
  constructor
  · intro obj buf suffix
    refine ⟨write_eq buf obj, obj.length_leaves, fun hholds stop old ↦ ?_⟩
    rw [write_eq, holds_append, holds_append] at hholds
    rw [read_run, (at_eq_iff memory _ obj).mpr hholds.1.2, write_eq, List.length_append,
      obj.length_leaves, Nat.add_assoc]
  · intro buf hlength hholds
    rw [fromBytes_run, toBytes, write_eq, List.nil_append]
    have hread := (at_eq_iff memory data (Object.at memory members data)).mp rfl
    apply List.ext_getElem
    · rw [Object.length_leaves, hlength]
    · intro index hleaves hbuf
      rw [← hread index hleaves, hholds index hbuf]

/-- An `Entity` at address 64 between a byte before it and a byte after it, and its own encoding. -/
theorem binary_round_trip_entity :
    ((read (64 + 1) 99 (Object.zero entity)).run (demoMemory.handler) ()).1 =
        (demoEntity, 64 + (write [7] demoEntity).length) ∧
      toBytes ((fromBytes entity 65 (toBytes demoEntity)).run (demoMemory.handler) ()).1 =
        toBytes demoEntity :=
  ⟨((binary_round_trip entity demoMemory 64).1 demoEntity [7] [9]).2.2
      (by unfold Holds; decide) 99 (Object.zero entity),
    (binary_round_trip entity demoMemory 65).2 (toBytes demoEntity) (by decide)
      (by unfold Holds; decide)⟩

/-! ## Bounds -/

/-- The access lies inside `[data, data + size)`. -/
def Load.Inside (load : Load) (data size : ℕ) : Prop :=
  data ≤ load.address ∧ load.address + load.size ≤ data + size

/-- Decoding stays inside the buffer exactly when the buffer is long enough for the shape. -/
theorem fromBytes_inside_iff (members : Members) (memory : Memory) (data : ℕ) (buf : List UInt8) :
    (∀ event ∈ (fromBytes members data buf).trace memory.handler (),
      event.1.Inside data buf.length) ↔ members.encodedSize ≤ buf.length := by
  have hloads : (∀ event ∈ (fromBytes members data buf).trace memory.handler (),
      event.1.Inside data buf.length) ↔
        ∀ load ∈ members.loads data, load.Inside data buf.length := by
    rw [← fromBytes_trace memory data buf, List.forall_mem_map]
  have hend := members.loads_end_le_iff (Nat.le_add_right data buf.length)
  rw [Nat.add_le_add_iff_left] at hend
  rw [hloads, ← hend]
  constructor
  · intro h load hload
    exact (h load hload).2
  · intro h load hload
    exact ⟨Members.le_address_of_mem_loads hload, h load hload⟩

/-- Decoding an `Entity` from an empty buffer reads behind it. -/
theorem fromBytes_overreads : ¬ ∀ event ∈
    (fromBytes entity 64 []).trace (Memory.handler fun _ ↦ 0) (), event.1.Inside 64 0 := by
  intro h
  have hfirst := h (⟨64, 4⟩, ()) (List.mem_cons_self)
  exact absurd hfirst.2 (by decide)

end ReflectNanobind.Serde
