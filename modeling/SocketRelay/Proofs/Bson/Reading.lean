import SocketRelay.Bson.Document
import SocketRelay.Bson.Layout

/-!
# Layouts are read back

A document that is laid out is read as itself, whatever follows it, if its keys can be written and
mean nothing else, its values are readable, and its length fits the length field.

`Value.Readable` is what a reader needs of a value: its payload can be told from what follows, and
spells the value. Numbers are always readable; texts, byte strings and arrays are as long as their
lengths fit.
-/
namespace SocketRelay.Bson

theorem readLe_length {n : Nat} (h : n < 2147483648) (rest : Bytes) :
    ∃ word, Bytes.readLe 4 (Bytes.le 4 n ++ rest) = some (word, rest) ∧
      Bytes.signed32 word = (n : Int) := by
  refine ⟨n % Nat.pow 256 4, Bytes.readLe_le 4 n rest, ?_⟩
  have hpow : Nat.pow 256 4 = 4294967296 := rfl
  rw [hpow, Nat.mod_eq_of_lt (by omega)]
  unfold Bytes.signed32
  rw [Int.bmod_eq_of_le (by omega) (by omega)]

theorem length?_le {n : Nat} (h : n < 2147483648) (rest : Bytes) :
    length? (Bytes.le 4 n ++ rest) = some (n : Int) := by
  obtain ⟨word, hread, hsigned⟩ := readLe_length h rest
  rw [length?, hread, Option.map_some, hsigned]

theorem ofLe_le_of_lt {width n : Nat} (h : n < Nat.pow 256 width) :
    Bytes.ofLe (Bytes.le width n) = n := by
  rw [Bytes.ofLe_le, Nat.mod_eq_of_lt h]

/-- A text that can stand before a zero byte. -/
def ZeroFree (s : String) : Prop := ∀ b ∈ Bytes.ofText s, b ≠ 0

instance (s : String) : Decidable (ZeroFree s) := inferInstanceAs (Decidable (∀ _ ∈ _, _))

theorem zeroFree_ofList {cs : List Char} (h : ∀ c ∈ cs, 0 < c.toNat ∧ c.toNat < 128) :
    ZeroFree (String.ofList cs) := by
  intro b hb
  have hbytes : Bytes.ofText (String.ofList cs) = cs.flatMap String.utf8EncodeChar := by
    simp [Bytes.ofText, List.utf8Encode]
  rw [hbytes, List.mem_flatMap] at hb
  obtain ⟨c, hc, hb⟩ := hb
  obtain ⟨hpos, hlt⟩ := h c hc
  have hsize : c.utf8Size = 1 := by
    rw [Char.utf8Size_eq_one_iff, UInt32.le_iff_toNat_le]
    exact Nat.le_of_lt_succ hlt
  rw [String.utf8EncodeChar_eq_singleton hsize, List.mem_singleton] at hb
  intro hzero
  have hnat : c.val.toUInt8.toNat = 0 := by rw [← hb, hzero]; rfl
  have hcode : c.val.toNat % 2 ^ 8 = c.toNat := Nat.mod_eq_of_lt (Nat.lt_trans hlt (by decide))
  rw [UInt32.toNat_toUInt8, hcode] at hnat
  exact Nat.ne_of_gt hpos hnat

theorem zeroFree_toString (n : Nat) : ZeroFree (toString n) := by
  change ZeroFree n.repr
  rw [Nat.repr_eq_ofList_toDigits]
  apply zeroFree_ofList
  intro c hc
  have hdigit := Char.isDigit_iff_toNat.1 (Nat.isDigit_of_mem_toDigits (by decide) (by decide) hc)
  have hlow : '0'.toNat = 48 := rfl
  have hhigh : '9'.toNat = 57 := rfl
  omega

/-- An element is cut off where its payload ends. -/
theorem Element.split?_elementLayout {type : ElementType} {key : String} {payload rest : Bytes}
    (hkey : ZeroFree key) (hsize : payloadSize? type (payload ++ rest) = some payload.length) :
    Element.split? (elementLayout type key payload ++ rest) =
      some (⟨type, key, payload⟩, rest) := by
  have hzero : zeroTerminated key ++ payload ++ rest =
      Bytes.ofText key ++ 0 :: (payload ++ rest) := by
    simp [zeroTerminated]
  unfold elementLayout Element.split?
  rw [List.cons_append, List.cons_append]
  simp only [hzero, ElementType.ofTag?_tag, Bytes.untilZero?_append hkey, Bytes.text?_ofText, hsize,
    Bytes.split?_append rfl]

theorem body?_enclose {inner : Bytes} (h : inner.length + 5 < 2147483648) (rest : Bytes) :
    body? (enclose inner ++ rest) = some (inner, rest) := by
  have hbytes : enclose inner ++ rest = Bytes.le 4 (inner.length + 5) ++ (inner ++ 0 :: rest) := by
    simp [enclose]
  have hleast : (5 : Int) ≤ ((inner.length + 5 : Nat) : Int) := by omega
  have hrest : ((inner.length + 5 : Nat) : Int).toNat - 5 = inner.length := by omega
  obtain ⟨word, hread, hsigned⟩ := readLe_length h (inner ++ 0 :: rest)
  unfold body?
  simp only [hbytes, hread, hsigned, if_pos hleast, hrest, Bytes.split?_append rfl]

theorem text?_textLayout {s : String} (h : (Bytes.ofText s).length + 1 < 2147483648)
    (rest : Bytes) : text? (textLayout s ++ rest) = some (s, rest) := by
  have hbytes : textLayout s ++ rest =
      Bytes.le 4 ((Bytes.ofText s).length + 1) ++ (Bytes.ofText s ++ 0 :: rest) := by
    simp [textLayout, zeroTerminated]
  have hleast : (1 : Int) ≤ (((Bytes.ofText s).length + 1 : Nat) : Int) := by omega
  have hrest : (((Bytes.ofText s).length + 1 : Nat) : Int).toNat - 1 = (Bytes.ofText s).length := by
    omega
  obtain ⟨word, hread, hsigned⟩ := readLe_length h (Bytes.ofText s ++ 0 :: rest)
  unfold text?
  simp only [hbytes, hread, hsigned, if_pos hleast, hrest, Bytes.split?_append rfl,
    Bytes.text?_ofText, Option.map_some]

/-- The extent of the payload can be told, and the payload spells the value. -/
structure Value.Readable (v : Value) : Prop where
  size : ∀ rest, payloadSize? v.type (v.layout ++ rest) = some v.layout.length
  value : ∀ key, Element.value? ⟨v.type, key, v.layout⟩ = some v

theorem readable_double (x : Binary64) : (Value.double x).Readable where
  size rest := by simp [Value.type, Value.layout, payloadSize?]
  value key := by
    have hword : Bytes.ofLe (Bytes.le 8 x.bits.toNat) = x.bits.toNat :=
      ofLe_le_of_lt (Nat.lt_of_lt_of_eq x.bits.toNat_lt (by decide))
    simp [Value.type, Value.layout, Element.value?, Element.scalar?, Element.word, hword]

theorem readable_int32 (n : Int32) : (Value.int32 n).Readable where
  size rest := by simp [Value.type, Value.layout, payloadSize?]
  value key := by
    have hword : Bytes.ofLe (Bytes.le 4 n.toUInt32.toNat) = n.toUInt32.toNat :=
      ofLe_le_of_lt (Nat.lt_of_lt_of_eq n.toUInt32.toNat_lt (by decide))
    simp [Value.type, Value.layout, Element.value?, Element.scalar?, Element.word, hword]

theorem readable_int64 (n : Int64) : (Value.int64 n).Readable where
  size rest := by simp [Value.type, Value.layout, payloadSize?]
  value key := by
    have hword : Bytes.ofLe (Bytes.le 8 n.toUInt64.toNat) = n.toUInt64.toNat :=
      ofLe_le_of_lt (Nat.lt_of_lt_of_eq n.toUInt64.toNat_lt (by decide))
    simp [Value.type, Value.layout, Element.value?, Element.scalar?, Element.word, hword]

theorem readable_string {s : String} (h : (Bytes.ofText s).length + 1 < 2147483648) :
    (Value.string s).Readable where
  size rest := by
    have hleast : (1 : Int) ≤ (((Bytes.ofText s).length + 1 : Nat) : Int) := by omega
    have hlength := length?_le h (zeroTerminated s ++ rest)
    simp only [Value.type, Value.layout, payloadSize?, textLayout, List.append_assoc, hlength,
      if_pos hleast]
    simp [zeroTerminated]
    omega
  value key := by
    have htext := text?_textLayout h []
    rw [List.append_nil] at htext
    simp [Value.type, Value.layout, Element.value?, Element.scalar?, htext]

theorem readable_binary {subtype : UInt8} {data : Bytes} (hs : subtype ≠ 2)
    (h : data.length < 2147483648) : (Value.binary subtype data).Readable where
  size rest := by
    have hlength := length?_le h (subtype :: data ++ rest)
    simp only [Value.type, Value.layout, payloadSize?, binaryLayout, if_neg hs, List.append_assoc,
      hlength]
    simp
    omega
  value key := by
    have hdrop : (Bytes.le 4 data.length ++ subtype :: data).drop 4 = subtype :: data := by
      rw [List.drop_append_of_le_length (by simp), List.drop_eq_nil_of_le (by simp)]
      rfl
    simp [Value.type, Value.layout, Element.value?, Element.scalar?, binaryLayout, hs, binary?,
      hdrop]

theorem value?_of_body? {payload inner rest : Bytes} (h : body? payload = some (inner, rest))
    (key : String) : Element.value? ⟨.array, key, payload⟩ = (items? inner).map .array := by
  simp only [Element.value?]
  split
  · rename_i hinner
    cases h.symm.trans hinner
    rfl
  · rename_i hn
    cases h.symm.trans hn

theorem items?_of_split? {bs rest : Bytes} {e : Element} {v : Value}
    (h : Element.split? bs = some (e, rest)) (hv : e.value? = some v) :
    items? bs = (items? rest).map (v :: ·) := by
  rw [items?]
  split
  · rename_i hn
    cases h.symm.trans hn
  · rename_i he
    cases h.symm.trans he
    simp only [hv]

theorem fields?_of_split? {bs rest : Bytes} {e : Element} {v : Value}
    (h : Element.split? bs = some (e, rest)) (hkey : Extended.ofKey? e.key = none)
    (hv : e.value? = some v) (before : List (String × Value)) :
    fields? before bs = fields? ((e.key, v) :: before) rest := by
  rw [fields?]
  split
  · rename_i hn
    cases h.symm.trans hn
  · rename_i he
    cases h.symm.trans he
    simp only [hkey, hv]

theorem items?_itemsLayout {items : List Value} (h : ∀ v ∈ items, v.Readable) (position : Nat) :
    items? (itemsLayout position items) = some items := by
  induction items generalizing position with
  | nil =>
    rw [items?]
    rfl
  | cons v items ih =>
    obtain ⟨hv, hitems⟩ := List.forall_mem_cons.1 h
    have hsplit := Element.split?_elementLayout (zeroFree_toString position)
      (hv.size (itemsLayout (position + 1) items))
    rw [itemsLayout, items?_of_split? hsplit (hv.value _), ih hitems, Option.map_some]

theorem readable_array {items : List Value} (h : ∀ v ∈ items, v.Readable)
    (hlength : (Value.array items).layout.length < 2147483648) : (Value.array items).Readable where
  size rest := by
    rw [Value.layout, length_enclose] at hlength
    have hbytes : enclose (itemsLayout 0 items) ++ rest =
        Bytes.le 4 ((itemsLayout 0 items).length + 5) ++ (itemsLayout 0 items ++ 0 :: rest) := by
      simp [enclose]
    have hleast : (5 : Int) ≤ (((itemsLayout 0 items).length + 5 : Nat) : Int) := by omega
    have hprefix := length?_le hlength (itemsLayout 0 items ++ 0 :: rest)
    rw [Value.layout, hbytes, length_enclose]
    generalize (itemsLayout 0 items).length + 5 = n at hprefix hleast ⊢
    simp only [Value.type, payloadSize?, hprefix, if_pos hleast]
    rfl
  value key := by
    rw [Value.layout, length_enclose] at hlength
    have hbody : body? (Value.array items).layout = some (itemsLayout 0 items, []) := by
      rw [Value.layout, ← body?_enclose hlength [], List.append_nil]
    rw [Value.type, value?_of_body? hbody, items?_itemsLayout h, Option.map_some]

/-- A key that can be written and means nothing else. -/
structure PlainKey (key : String) : Prop where
  zeroFree : ZeroFree key
  ordinary : Extended.ofKey? key = none

theorem fields?_fieldsLayout {d : Document} (h : ∀ f ∈ d, PlainKey f.1 ∧ f.2.Readable)
    (before : List (String × Value)) :
    fields? before (fieldsLayout d) = some (.document (before.reverse ++ d)) := by
  induction d generalizing before with
  | nil =>
    rw [fields?]
    simp [fieldsLayout, Element.split?]
  | cons f d ih =>
    obtain ⟨⟨hkey, hv⟩, hd⟩ := List.forall_mem_cons.1 h
    have hsplit := Element.split?_elementLayout hkey.zeroFree (hv.size (fieldsLayout d))
    rw [fieldsLayout, fields?_of_split? hsplit hkey.ordinary (hv.value _), ih hd,
      List.reverse_cons, List.append_assoc, List.singleton_append]

/-- A document is read back from the front of a buffer. -/
theorem Document.read?_layout {d : Document} (h : ∀ f ∈ d, PlainKey f.1 ∧ f.2.Readable)
    (hlength : d.layout.length < 2147483648) (rest : Bytes) :
    Document.read? (d.layout ++ rest) = some d := by
  rw [Document.layout, length_enclose] at hlength
  rw [Document.read?, Document.layout, body?_enclose hlength]
  simp only [fields?_fieldsLayout h, List.reverse_nil, List.nil_append]

end SocketRelay.Bson
