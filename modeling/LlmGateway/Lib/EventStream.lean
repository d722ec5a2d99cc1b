import LlmGateway.Lib.JsText

/-!
Server-sent events. The reader takes a stream unit by unit, as a browser or a
client library does: lines end at LF, CR or CRLF, a blank line ends a block,
and a block with no data is no message. Frames are what a server writes.
-/

namespace EventStream

open Js

def carriageReturn : UInt16 := 0x0D

def colon : UInt16 := 0x3A

def space : UInt16 := 0x20

structure Message where
  type : Utf16
  data : Utf16
  deriving DecidableEq

structure Reader where
  /-- What the current line holds so far. -/
  line : Utf16
  /-- The last unit was a CR, so an LF now ends no second line. -/
  afterReturn : Bool
  eventType : Utf16
  data : Utf16
  messages : List Message
  deriving DecidableEq

def Reader.between (messages : List Message) : Reader where
  line := []
  afterReturn := false
  eventType := []
  data := []
  messages := messages

namespace Reader

variable (reader : Reader)

/-- `id` and `retry` bear on reconnections only. -/
def field (name value : Utf16) : Reader :=
  if name = units "event" then { reader with eventType := value }
  else if name = units "data" then { reader with data := reader.data ++ value ++ [lineFeed] }
  else reader

def dispatch : Reader :=
  if reader.data = [] then { reader with eventType := [] }
  else { reader with
    eventType := []
    data := []
    messages := reader.messages ++
      [{ type := if reader.eventType = [] then units "message" else reader.eventType
         data := reader.data.dropLast }] }

/-- One space behind the colon belongs to neither name nor value. -/
def unspaced : Utf16 → Utf16
  | [] => []
  | unit :: rest => if unit = space then rest else unit :: rest

def processLine (line : Utf16) : Reader :=
  match line with
  | [] => reader.dispatch
  | _ =>
      let name := line.takeWhile (· ≠ colon)
      match line.dropWhile (· ≠ colon) with
      | [] => reader.field line []
      -- A line that opens with a colon is a comment.
      | _ :: value => if name = [] then reader else reader.field name (unspaced value)

def endLine : Reader := { reader with line := [] }.processLine reader.line

def feed (unit : UInt16) : Reader :=
  if unit = lineFeed then
    if reader.afterReturn then { reader with afterReturn := false } else reader.endLine
  else if unit = carriageReturn then { reader.endLine with afterReturn := true }
  else { reader with line := reader.line ++ [unit], afterReturn := false }

def read (text : Utf16) : Reader := text.foldl feed reader

theorem read_flatten (packets : List Utf16) : packets.foldl read reader = reader.read packets.flatten := by
  induction packets generalizing reader with
  | nil => rfl
  | cons packet rest ih =>
      rw [List.foldl_cons, ih, List.flatten_cons, read, read, read, List.foldl_append]

theorem read_append (first second : Utf16) :
    reader.read (first ++ second) = (reader.read first).read second :=
  List.foldl_append

end Reader

def Unbroken (text : Utf16) : Prop := lineFeed ∉ text ∧ carriageReturn ∉ text

instance (text : Utf16) : Decidable (Unbroken text) := inferInstanceAs (Decidable (_ ∧ _))

theorem unbroken_append (first second : Utf16) :
    Unbroken (first ++ second) ↔ Unbroken first ∧ Unbroken second := by
  simp only [Unbroken, List.mem_append, not_or]
  tauto

/-- What a server writes for one message; without a type the reader names it `message`. -/
structure Frame where
  type : Option Utf16
  data : Utf16

namespace Frame

def typeLine : Option Utf16 → Utf16
  | none => []
  | some type => units "event: " ++ type ++ [lineFeed]

def wire (frame : Frame) : Utf16 :=
  typeLine frame.type ++ (units "data: " ++ frame.data ++ [lineFeed] ++ [lineFeed])

def message (frame : Frame) : Message where
  type := frame.type.getD (units "message")
  data := frame.data

structure Clean (frame : Frame) : Prop where
  data : Unbroken frame.data
  type : ∀ type ∈ frame.type, Unbroken type
  named : ∀ type ∈ frame.type, type ≠ []

end Frame

section Reading

variable (reader : Reader)

theorem read_unbroken (text : Utf16) (unbroken : Unbroken text) (more : text ≠ []) :
    reader.read text = { reader with line := reader.line ++ text, afterReturn := false } := by
  induction text generalizing reader with
  | nil => exact absurd rfl more
  | cons unit rest ih =>
      obtain ⟨feeds, returns⟩ := unbroken
      simp only [List.mem_cons, not_or] at feeds returns
      have fed : reader.feed unit =
          { reader with line := reader.line ++ [unit], afterReturn := false } := by
        rw [Reader.feed, if_neg (Ne.symm feeds.1), if_neg (Ne.symm returns.1)]
      change (reader.feed unit).read rest = _
      rw [fed]
      cases rest with
      | nil => rfl
      | cons next others =>
          rw [ih _ ⟨feeds.2, returns.2⟩ (List.cons_ne_nil _ _)]
          simp

theorem read_line (text : Utf16) (unbroken : Unbroken text) (blank : reader.line = [])
    (fresh : reader.afterReturn = false) :
    reader.read (text ++ [lineFeed]) = reader.processLine text := by
  obtain ⟨line, afterReturn, eventType, data, messages⟩ := reader
  cases blank
  cases fresh
  rw [Reader.read_append]
  cases text with
  | nil => rfl
  | cons unit rest =>
      rw [read_unbroken _ _ unbroken (List.cons_ne_nil _ _)]
      rfl

theorem processLine_field (name value : Utf16) (plain : colon ∉ name) (named : name ≠ []) :
    reader.processLine (name ++ colon :: space :: value) = reader.field name value := by
  have others : ∀ unit ∈ name, decide (unit ≠ colon) = true :=
    fun unit member => decide_eq_true fun same => plain (same ▸ member)
  have taken : (name ++ colon :: space :: value).takeWhile (· ≠ colon) = name := by
    rw [List.takeWhile_append_of_pos others, List.takeWhile_cons_of_neg (by simp), List.append_nil]
  have dropped : (name ++ colon :: space :: value).dropWhile (· ≠ colon) =
      colon :: space :: value := by
    rw [List.dropWhile_append_of_pos others, List.dropWhile_cons_of_neg (by simp)]
  obtain ⟨first, rest, rfl⟩ := List.exists_cons_of_ne_nil named
  simp only [List.cons_append] at taken dropped ⊢
  simp only [Reader.processLine, taken, dropped, named, ↓reduceIte, Reader.unspaced]

theorem read_field_line (name value : Utf16) (unbroken : Unbroken (name ++ colon :: space :: value))
    (plain : colon ∉ name) (named : name ≠ []) (blank : reader.line = [])
    (fresh : reader.afterReturn = false) :
    reader.read (name ++ colon :: space :: value ++ [lineFeed]) = reader.field name value := by
  rw [read_line reader _ unbroken blank fresh, processLine_field reader name value plain named]

theorem read_data_line (text : Utf16) (unbroken : Unbroken text) (blank : reader.line = [])
    (fresh : reader.afterReturn = false) :
    reader.read (units "data: " ++ text ++ [lineFeed]) =
      { reader with data := reader.data ++ text ++ [lineFeed] } := by
  have spelled : units "data: " ++ text = units "data" ++ colon :: space :: text := by
    rw [show units "data: " = units "data" ++ [colon, space] by decide +kernel, List.append_assoc]
    rfl
  have whole : Unbroken (units "data" ++ colon :: space :: text) := by
    rw [← spelled, unbroken_append]
    exact ⟨by decide +kernel, unbroken⟩
  rw [spelled, read_field_line reader _ text whole (by decide +kernel) (by decide +kernel) blank
    fresh, Reader.field, if_neg (by decide +kernel), if_pos rfl]

theorem read_type_line (text : Utf16) (unbroken : Unbroken text) (blank : reader.line = [])
    (fresh : reader.afterReturn = false) :
    reader.read (units "event: " ++ text ++ [lineFeed]) = { reader with eventType := text } := by
  have spelled : units "event: " ++ text = units "event" ++ colon :: space :: text := by
    rw [show units "event: " = units "event" ++ [colon, space] by decide +kernel, List.append_assoc]
    rfl
  have whole : Unbroken (units "event" ++ colon :: space :: text) := by
    rw [← spelled, unbroken_append]
    exact ⟨by decide +kernel, unbroken⟩
  rw [spelled, read_field_line reader _ text whole (by decide +kernel) (by decide +kernel) blank
    fresh, Reader.field, if_pos rfl]

theorem read_blank_line (data : Utf16) (blank : reader.line = [])
    (fresh : reader.afterReturn = false) (holds : reader.data = data ++ [lineFeed]) :
    reader.read [lineFeed] = Reader.between (reader.messages ++
      [{ type := if reader.eventType = [] then units "message" else reader.eventType
         data := data }]) := by
  have ends := read_line reader [] ⟨List.not_mem_nil, List.not_mem_nil⟩ blank fresh
  rw [List.nil_append] at ends
  obtain ⟨line, afterReturn, eventType, held, messages⟩ := reader
  cases blank
  cases fresh
  change held = data ++ [lineFeed] at holds
  subst holds
  have some : data ++ [lineFeed] ≠ [] := by simp
  simp only [ends, Reader.processLine, Reader.dispatch, some, ↓reduceIte, List.dropLast_concat]
  rfl

theorem read_frame (messages : List Message) (frame : Frame) (clean : frame.Clean) :
    (Reader.between messages).read frame.wire = Reader.between (messages ++ [frame.message]) := by
  obtain ⟨type, data⟩ := frame
  have unbroken := clean.data
  rw [Frame.wire, Reader.read_append, Reader.read_append]
  cases type with
  | none =>
      rw [show (Reader.between messages).read (Frame.typeLine none) = Reader.between messages from
        rfl, read_data_line _ data unbroken rfl rfl, read_blank_line _ data rfl rfl rfl]
      rfl
  | some type =>
      rw [Frame.typeLine, read_type_line _ type (clean.type type rfl) rfl rfl,
        read_data_line _ data unbroken rfl rfl, read_blank_line _ data rfl rfl rfl,
        if_neg (clean.named type rfl)]
      rfl

/-- A reader gets the messages of the frames and is ready for the next one,
wherever the packets were cut. -/
theorem read_frames (messages : List Message) (frames : List Frame)
    (clean : ∀ frame ∈ frames, frame.Clean) (packets : List Utf16)
    (cut : packets.flatten = (frames.map Frame.wire).flatten) :
    packets.foldl Reader.read (Reader.between messages) =
      Reader.between (messages ++ frames.map Frame.message) := by
  rw [Reader.read_flatten, cut]
  clear cut
  induction frames generalizing messages with
  | nil => rw [List.map_nil, List.map_nil, List.append_nil]; rfl
  | cons frame rest ih =>
      rw [List.map_cons, List.flatten_cons, Reader.read_append,
        read_frame messages frame (clean frame List.mem_cons_self),
        ih _ fun other member => clean other (List.mem_cons_of_mem _ member)]
      simp only [List.append_assoc, List.singleton_append, List.map_cons]

end Reading

section Values

theorem unbroken_join (separator : Utf16) (texts : List Utf16) (clean : Unbroken separator)
    (each : ∀ text ∈ texts, Unbroken text) : Unbroken (join separator texts) := by
  induction texts with
  | nil => exact ⟨List.not_mem_nil, List.not_mem_nil⟩
  | cons first rest ih =>
      have others := ih fun text member => each text (List.mem_cons_of_mem _ member)
      have here := each first List.mem_cons_self
      cases rest with
      | nil => simpa [join, List.intercalate] using here
      | cons second more =>
          rw [join, List.intercalate, List.intersperse_cons_cons, List.flatten_cons,
            List.flatten_cons, unbroken_append, unbroken_append]
          exact ⟨here, clean, others⟩

theorem unbroken_cons (unit : UInt16) (rest : Utf16) :
    Unbroken (unit :: rest) ↔ Unbroken [unit] ∧ Unbroken rest :=
  unbroken_append [unit] rest

theorem hexUnit_unbroken (digit : ℕ) (small : digit < 16) : Unbroken [hexUnit digit] := by
  have each : ∀ digit : Fin 16, Unbroken [hexUnit digit] := by decide +kernel
  exact each ⟨digit, small⟩

theorem surrogate_unbroken (unit : UInt16)
    (half : highSurrogate unit = true ∨ lowSurrogate unit = true) : Unbroken [unit] := by
  constructor
  · intro member
    cases List.mem_singleton.mp member
    exact absurd half (by decide)
  · intro member
    cases List.mem_singleton.mp member
    exact absurd half (by decide)

theorem escapeUnit_unbroken (unit : UInt16) : Unbroken (escapeUnit unit) := by
  unfold escapeUnit
  split_ifs with quote backslash backspace formFeed newline returns tab control
  all_goals first | exact (by decide +kernel) | skip
  · have bound := unit.toNat_lt
    rw [unbroken_append, unbroken_cons, unbroken_cons (hexUnit (unit.toNat / 0x100 % 0x10)),
      unbroken_cons (hexUnit (unit.toNat / 0x10 % 0x10))]
    exact ⟨by decide +kernel, hexUnit_unbroken _ (by omega), hexUnit_unbroken _ (by omega),
      hexUnit_unbroken _ (by omega), hexUnit_unbroken _ (by omega)⟩
  · exact ⟨fun member => newline (List.mem_singleton.mp member).symm,
      fun member => returns (List.mem_singleton.mp member).symm⟩

theorem escapeUnits_unbroken (text : Utf16) : Unbroken (escapeUnits text) := by
  fun_induction escapeUnits text with
  | case1 => exact ⟨List.not_mem_nil, List.not_mem_nil⟩
  | case2 unit => exact escapeUnit_unbroken unit
  | case3 high low rest pair ih =>
      obtain ⟨first, second⟩ := Bool.and_eq_true_iff.mp pair
      rw [unbroken_cons, unbroken_cons low]
      exact ⟨surrogate_unbroken high (Or.inl first), surrogate_unbroken low (Or.inr second), ih⟩
  | case4 high low rest alone ih => exact (unbroken_append _ _).mpr ⟨escapeUnit_unbroken high, ih⟩

theorem quoteUnits_unbroken (text : Utf16) : Unbroken (quoteUnits text) := by
  rw [quoteUnits, unbroken_append, unbroken_append]
  exact ⟨⟨by decide +kernel, escapeUnits_unbroken text⟩, by decide +kernel⟩

mutual

def PlainNumbers : Value → Prop
  | .undefined | .null | .boolean _ | .string _ => True
  | .number printed => Unbroken printed
  | .array items => PlainItems items
  | .object fields => PlainFields fields

def PlainItems : List Value → Prop
  | [] => True
  | item :: rest => PlainNumbers item ∧ PlainItems rest

def PlainFields : List (Utf16 × Value) → Prop
  | [] => True
  | (_, value) :: rest => PlainNumbers value ∧ PlainFields rest

end

theorem numberJson_unbroken (printed : Utf16) (plain : Unbroken printed) :
    Unbroken (numberJson printed) := by
  unfold numberJson
  split
  · decide +kernel
  · exact plain

mutual

/-- `JSON.stringify` escapes every line break. -/
theorem json_unbroken (value : Value) (plain : PlainNumbers value) :
    ∀ text ∈ value.json, Unbroken text := by
  intro text printed
  match value with
  | .undefined => cases printed
  | .null => cases printed; decide +kernel
  | .boolean value => cases printed; cases value <;> decide +kernel
  | .number printed_ => cases printed; exact numberJson_unbroken _ plain
  | .string text => cases printed; exact quoteUnits_unbroken text
  | .array items =>
      cases printed
      rw [unbroken_append, unbroken_append]
      exact ⟨⟨by decide +kernel, unbroken_join _ _ (by decide +kernel)
        (itemsJson_unbroken items plain)⟩, by decide +kernel⟩
  | .object fields =>
      cases printed
      rw [braces, unbroken_append, unbroken_append]
      exact ⟨⟨by decide +kernel, unbroken_join _ _ (by decide +kernel)
        (fieldsJson_unbroken fields plain)⟩, by decide +kernel⟩

theorem itemsJson_unbroken (items : List Value) (plain : PlainItems items) :
    ∀ text ∈ itemsJson items, Unbroken text := by
  intro text member
  match items with
  | [] => simp [itemsJson] at member
  | item :: rest =>
      rw [itemsJson] at member
      rcases List.mem_cons.mp member with rfl | later
      · cases printed : item.json with
        | none => decide +kernel
        | some text => exact json_unbroken item plain.1 text printed
      · exact itemsJson_unbroken rest plain.2 text later

theorem fieldsJson_unbroken (fields : List (Utf16 × Value)) (plain : PlainFields fields) :
    ∀ text ∈ fieldsJson fields, Unbroken text := by
  intro text member
  match fields with
  | [] => simp [fieldsJson] at member
  | (key, value) :: rest =>
      rw [fieldsJson] at member
      rcases List.mem_append.mp member with here | later
      · obtain ⟨printed, prints, rfl⟩ := Option.map_eq_some_iff.mp (Option.mem_toList.mp here)
        rw [unbroken_append, unbroken_append]
        exact ⟨⟨quoteUnits_unbroken key, by decide +kernel⟩,
          json_unbroken value plain.1 printed prints⟩
      · exact fieldsJson_unbroken rest plain.2 text later

end

theorem units_unbroken (text : String) (feeds : '\n' ∉ text.toList) (returns : '\r' ∉ text.toList) :
    Unbroken (units text) := by
  have only : ∀ (unit : UInt16) (char : Char), unit.toNat = char.toNat → unit.toNat < 0xD800 →
      char ∉ text.toList → unit ∉ units text := by
    intro unit char same low absent member
    obtain ⟨code, among, rfl⟩ := List.mem_map.mp member
    obtain ⟨found, inText, here⟩ := List.mem_flatMap.mp among
    have bound := found.val.toNat_lt
    -- A unit below the surrogates stands for the character itself.
    split at here
    next small =>
      rw [List.mem_singleton.mp here, UInt16.toNat_ofNat_of_lt' small] at same
      exact absent (Char.toNat_inj.mp same ▸ inText)
    next large =>
      have point : found.toNat < 0x110000 := by
        have valid := found.valid
        unfold UInt32.isValidChar Nat.isValidChar at valid
        change found.val.toNat < _
        omega
      simp only [List.mem_cons, List.not_mem_nil, or_false] at here
      have half : 0xD800 ≤ code ∧ code < 0x10000 := by omega
      rw [UInt16.toNat_ofNat_of_lt' half.2] at low
      omega
  exact ⟨only lineFeed '\n' (by decide) (by decide) feeds,
    only carriageReturn '\r' (by decide) (by decide) returns⟩

theorem nat_unbroken (value : ℕ) : Unbroken (units (toString value)) := by
  have digits : ∀ char ∈ (toString value).toList, char.isDigit = true := by
    intro char member
    rw [Nat.toString_eq_ofList_toDigits, String.toList_ofList] at member
    exact Nat.isDigit_of_mem_toDigits (by decide) (by decide) member
  exact units_unbroken _ (fun feed => absurd (digits _ feed) (by decide))
    (fun returns => absurd (digits _ returns) (by decide))

theorem int_unbroken (value : ℤ) : Unbroken (units (toString value)) := by
  rw [Int.toString_eq_repr, Int.repr_eq_if]
  split
  · exact nat_unbroken value.toNat
  · rw [units_append, unbroken_append]
    exact ⟨by decide +kernel, nat_unbroken (-value).toNat⟩

end Values

end EventStream
