import Mathlib.Data.List.Basic

/-! Readers of bytes, and the values that they read back from what was written. -/

namespace ByteReader

/-- A reader takes bytes from the front, or fails. -/
abbrev Reader (α : Type) := StateT (List UInt8) Option α

/-- A way to write values as bytes from which they are read back. -/
structure Codec (α : Type) where
  /-- The bytes of a value. -/
  write : α → List UInt8
  /-- The reader of a value. -/
  read : Reader α
  /-- The reader takes exactly what was written. -/
  read_write : ∀ value rest, read.run (write value ++ rest) = some (value, rest)

/-- A reader that takes no bytes. -/
def ofOption {α : Type} (result : Option α) : Reader α :=
  fun bytes => result.map (·, bytes)

/-- Read a number of values. -/
def readMany {α : Type} (read : Reader α) : Nat → Reader (List α)
  | 0 => pure []
  | count + 1 => do
    let value ← read
    let values ← readMany read count
    pure (value :: values)

/-- Read the number of values and then the values. -/
def readList {α : Type} (size : Codec Nat) (read : Reader α) : Reader (List α) := do
  let count ← size.read
  readMany read count

/-- Write the number of values and then the values. -/
def writeList {α : Type} (size : Codec Nat) (write : α → List UInt8) (values : List α) :
    List UInt8 :=
  size.write values.length ++ values.flatMap write

/-- Read all of the bytes. -/
def readAll {α : Type} (read : Reader α) (bytes : List UInt8) : Option α :=
  match read.run bytes with
  | some (value, []) => some value
  | _ => none

variable {α β γ : Type}

/-- A reader reads a result, or fails, on bytes that may be followed by others. -/
def Reads (read : Reader α) (bytes : List UInt8) (result : Option α) : Prop :=
  ∀ rest, read.run (bytes ++ rest) = result.map (·, rest)

/-- What a codec writes is read. -/
theorem Codec.reads (codec : Codec α) (value : α) :
    Reads codec.read (codec.write value) (some value) := by
  intro rest
  rw [codec.read_write, Option.map_some]

/-- A result is read from no bytes. -/
theorem reads_ofOption (result : Option α) : Reads (ofOption result) [] result := by
  intro rest
  rfl

/-- What follows a reader goes on with its result and with the bytes that are left. -/
theorem Reads.run_bind {read : Reader α} {bytes : List UInt8} {result : Option α}
    (reads : Reads read bytes result) (next : α → Reader β) (rest : List UInt8) :
    (read >>= next).run (bytes ++ rest) = result.bind fun value => (next value).run rest := by
  rw [StateT.run_bind, reads]
  cases result <;> rfl

/-- What is written by a codec is handed on. -/
@[simp] theorem Codec.run_bind (codec : Codec α) (value : α) (next : α → Reader β)
    (rest : List UInt8) :
    (codec.read >>= next).run (codec.write value ++ rest) = (next value).run rest := by
  rw [(codec.reads value).run_bind, Option.bind_some]

/-- A result is handed on if there is one. -/
@[simp] theorem run_ofOption_bind (result : Option α) (next : α → Reader β)
    (bytes : List UInt8) :
    (ofOption result >>= next).run bytes = result.bind fun value => (next value).run bytes :=
  (reads_ofOption result).run_bind next bytes

/-- A value is read from no bytes. -/
@[simp] theorem run_pure (value : α) (bytes : List UInt8) :
    (pure value : Reader α).run bytes = some (value, bytes) := by
  rfl

/-- Whatever a reader reads has a property. -/
structure Ensures (read : Reader α) (P : α → Prop) : Prop where
  /-- What has been read has it. -/
  holds : ∀ bytes found, read.run bytes = some found → P found.1

/-- A value that is read from no bytes is known. -/
theorem ensures_pure {P : α → Prop} {value : α} (known : P value) : Ensures (pure value) P := by
  constructor
  intro bytes found read
  cases read
  exact known

/-- A result that is read from no bytes is known. -/
theorem ensures_ofOption (result : Option α) :
    Ensures (ofOption result) fun value => result = some value := by
  constructor
  intro bytes found read
  obtain ⟨value, known, rfl⟩ := Option.map_eq_some_iff.mp read
  exact known

/-- A reader that fails reads nothing that is not known. -/
theorem ensures_none {P : α → Prop} : Ensures (ofOption none) P := by
  constructor
  intro bytes found read
  cases read

/-- What is read last is known from what is known of what is read first. -/
theorem Ensures.bind {read : Reader α} {next : α → Reader β} {P : α → Prop} {Q : β → Prop}
    (first : Ensures read P) (second : ∀ value, P value → Ensures (next value) Q) :
    Ensures (read >>= next) Q := by
  constructor
  intro bytes found ran
  rw [StateT.run_bind] at ran
  obtain ⟨⟨value, rest⟩, firstRan, secondRan⟩ := Option.bind_eq_some_iff.mp ran
  exact (second value (first.holds bytes _ firstRan)).holds rest found secondRan

/-- What is read last is known whatever is read first. -/
theorem ensures_bind {read : Reader α} {next : α → Reader β} {Q : β → Prop}
    (second : ∀ value, Ensures (next value) Q) : Ensures (read >>= next) Q :=
  Ensures.bind (P := fun _ => True) ⟨fun _ _ _ => trivial⟩ fun value _ => second value

/-- All the values of a list are known. -/
theorem ensures_readMany {read : Reader α} {P : α → Prop} (each : Ensures read P)
    (count : Nat) : Ensures (readMany read count) fun values => ∀ value ∈ values, P value := by
  induction count with
  | zero => exact ensures_pure (by simp)
  | succ count ih =>
    rw [readMany]
    apply each.bind
    intro value known
    apply ih.bind
    intro values allKnown
    exact ensures_pure (List.forall_mem_cons.mpr ⟨known, allKnown⟩)

/-- Values are read one after the other. -/
theorem reads_readMany {read : Reader β} {write : α → List UInt8} {result : α → Option β}
    (reads : ∀ value, Reads read (write value) (result value)) (values : List α) :
    Reads (readMany read values.length) (values.flatMap write) (values.mapM result) := by
  induction values with
  | nil =>
    intro rest
    rfl
  | cons value values ih =>
    intro rest
    rw [List.flatMap_cons, List.append_assoc, List.length_cons, readMany, (reads value).run_bind,
      List.mapM_cons]
    cases result value with
    | none => rfl
    | some first =>
      rw [Option.bind_some, ih.run_bind]
      cases values.mapM result <;> rfl

/-- A list is read when its values are. -/
theorem reads_readList (size : Codec Nat) {read : Reader β} {write : α → List UInt8}
    {result : α → Option β} (reads : ∀ value, Reads read (write value) (result value))
    (values : List α) :
    Reads (readList size read) (writeList size write values) (values.mapM result) := by
  intro rest
  rw [readList, writeList, List.append_assoc, Codec.run_bind]
  exact reads_readMany reads values rest

/-- A list of values that a codec writes is handed on. -/
@[simp] theorem run_readList_bind (size : Codec Nat) (codec : Codec α) (values : List α)
    (next : List α → Reader β) (rest : List UInt8) :
    (readList size codec.read >>= next).run (writeList size codec.write values ++ rest) =
      (next values).run rest := by
  have all : values.mapM (some : α → Option α) = some values := by
    simpa using List.mapM_pure (m := Option) (l := values) (f := id)
  rw [(reads_readList size codec.reads values).run_bind, all, Option.bind_some]

/-- Values are written as what they are encoded as. -/
def Codec.of (codec : Codec α) (encode : β → α) (decode : α → β)
    (back : ∀ value, decode (encode value) = value) : Codec β where
  write value := codec.write (encode value)
  read := do
    let found ← codec.read
    pure (decode found)
  read_write value rest := by
    rw [Codec.run_bind, run_pure, back]

/-- Lists of values. -/
def Codec.list (size : Codec Nat) (codec : Codec α) : Codec (List α) where
  write values := writeList size codec.write values
  read := readList size codec.read
  read_write values rest := by
    have read := run_readList_bind size codec values pure rest
    rwa [bind_pure, run_pure] at read

/-- A list of results is the list itself when each result is the value it is of. -/
theorem mapM_eq_some_self {result : α → Option α} (values : List α) :
    values.mapM result = some values ↔ ∀ value ∈ values, result value = some value := by
  induction values with
  | nil => simp
  | cons value values ih =>
    rw [List.forall_mem_cons, ← ih, List.mapM_cons]
    cases result value with
    | none => simp
    | some first => cases values.mapM result <;> simp

/-- All of the bytes are read when none is left. -/
theorem readAll_eq_some (read : Reader α) (bytes : List UInt8) (value : α) :
    readAll read bytes = some value ↔ read.run bytes = some (value, []) := by
  rw [readAll]
  rcases read.run bytes with _ | ⟨found, _ | ⟨byte, rest⟩⟩ <;> simp

end ByteReader
