/-
**The normal form of a drained text.**

A drained text has no carriage return and, unless it is empty, a line feed at its end.  Draining
changes nothing of such a text, so these are just the texts that can be drained from anything; and
since damaged bytes are read as characters that can be encoded again, this also holds of a text that
was drained from damage.

A line feed in the bytes is read as a line feed and ends whatever is open before it, be it a
character or a carriage return.  So what comes before it and what comes after it are drained apart.

Main definitions:

* `ServiceClient.Text.Drained`: texts in normal form.

Main results:

* `ServiceClient.Text.drained_drainBytes`, `ServiceClient.Text.Drained.drainBytes_encodeChars`: what
  is drained is in normal form, and what is in normal form stays as it is;
* `ServiceClient.Text.drained_iff_exists`: the texts in normal form are those that can be drained;
* `ServiceClient.Text.drainBytes_normal`: **draining brings any bytes into a normal form** that can
  be encoded and drained again;
* `ServiceClient.Text.drainBytes_append_newline`: **the two sides of a line feed are drained
  apart**.
-/

import ServiceClient.Proofs.Text.Damage
import ServiceClient.Proofs.Text.Lines

set_option autoImplicit false

namespace ServiceClient.Text

variable {c : Char} {cs ds : List Char}

/-! ### Texts with their line ends as line feeds -/

/-- Only line feeds are added to a text. -/
theorem mem_of_mem_uniform (h : c ∈ uniform cs) : c = '\n' ∨ c ∈ cs := by
  induction cs using uniform.induct with
  | case1 => cases h
  | case2 rest ih =>
      rw [uniform, List.mem_cons] at h
      rcases h with rfl | h
      · exact .inl rfl
      · exact (ih h).imp_right fun hc => .tail _ (.tail _ hc)
  | case3 rest hlone ih =>
      rw [uniform, List.mem_cons] at h
      · rcases h with rfl | h
        · exact .inl rfl
        · exact (ih h).imp_right fun hc => .tail _ hc
      · exact hlone
  | case4 d rest hpair hreturn ih =>
      rw [uniform, List.mem_cons] at h
      · rcases h with rfl | h
        · exact .inr (.head _)
        · exact (ih h).imp_right fun hc => .tail _ hc
      all_goals assumption

/-- No carriage return is left. -/
theorem return_notMem_uniform (cs : List Char) : '\r' ∉ uniform cs := by
  induction cs using uniform.induct with
  | case1 => exact List.not_mem_nil
  | case2 rest ih =>
      rw [uniform, List.mem_cons, not_or]
      exact ⟨by decide, ih⟩
  | case3 rest hlone ih =>
      rw [uniform, List.mem_cons, not_or]
      · exact ⟨by decide, ih⟩
      · exact hlone
  | case4 d rest hpair hreturn ih =>
      rw [uniform, List.mem_cons, not_or]
      · exact ⟨fun h => hreturn h.symm, ih⟩
      all_goals assumption

/-- A text without carriage returns is uniform. -/
theorem uniform_of_notMem (h : '\r' ∉ cs) : uniform cs = cs := by
  induction cs with
  | nil => rfl
  | cons c rest ih =>
      rw [List.mem_cons, not_or] at h
      rw [uniform, ih h.2]
      · exact fun _ hc _ => h.1 hc.symm
      · exact fun hc => h.1 hc.symm

/-- A text ends as it ended, with a line feed for a carriage return. -/
theorem getLast?_uniform (cs : List Char) :
    (uniform cs).getLast? = cs.getLast?.map fun c => if c = '\r' then '\n' else c := by
  induction cs using uniform.induct with
  | case1 => rfl
  | case2 rest ih =>
      rw [uniform, List.getLast?_cons, ih, List.getLast?_cons, List.getLast?_cons]
      cases rest.getLast? <;> rfl
  | case3 rest hlone ih =>
      rw [uniform, List.getLast?_cons, ih, List.getLast?_cons]
      · cases rest.getLast? <;> rfl
      · exact hlone
  | case4 c rest hpair hreturn ih =>
      rw [uniform, List.getLast?_cons, ih, List.getLast?_cons]
      · have hc : (if c = '\r' then '\n' else c) = c := if_neg hreturn
        cases rest.getLast? with
        | none => simp [hc]
        | some d => rfl
      all_goals assumption

/-- A line end can only be cut in two behind a carriage return. -/
theorem uniform_append (h : cs.getLast? ≠ some '\r') :
    uniform (cs ++ ds) = uniform cs ++ uniform ds := by
  induction cs using uniform.induct with
  | case1 => rfl
  | case2 rest ih =>
      have hrest : rest.getLast? ≠ some '\r' := fun hlast =>
        h (by rw [List.getLast?_cons, List.getLast?_cons, hlast]; rfl)
      rw [List.cons_append, List.cons_append, uniform, uniform, ih hrest, List.cons_append]
  | case3 rest hlone ih =>
      cases rest with
      | nil => exact absurd rfl h
      | cons d rest =>
          have hd : d ≠ '\n' := fun hd => hlone rest (hd ▸ rfl)
          rw [List.getLast?_cons_cons] at h
          rw [List.cons_append, uniform, uniform, ih h, List.cons_append]
          · exact fun _ hcut => hd (List.cons.inj hcut).1
          · exact fun _ hcut => hd (List.cons.inj hcut).1
  | case4 c rest hpair hreturn ih =>
      have hrest : rest.getLast? ≠ some '\r' := fun hlast =>
        h (by rw [List.getLast?_cons, hlast]; rfl)
      rw [List.cons_append, uniform, uniform, ih hrest, List.cons_append]
      · exact fun _ hc _ => hreturn hc
      · exact fun hc => hreturn hc
      · exact fun _ hc _ => hreturn hc
      · exact fun hc => hreturn hc

/-! ### The normal form -/

/-- A text in normal form: it has no carriage return and, unless it is empty, a line feed at its
end. -/
structure Drained (cs : List Char) : Prop where
  noReturn : '\r' ∉ cs
  closed : cs = [] ∨ cs.getLast? = some '\n'

theorem mem_ended (h : c ∈ ended cs) : c = '\n' ∨ c ∈ cs := by
  rw [ended] at h
  split at h
  · exact .inr h
  · rcases List.mem_append.mp h with hc | hc
    · exact .inr hc
    · exact .inl (List.mem_singleton.mp hc)

/-- What is uniform is brought into normal form by a line feed at its end. -/
theorem drained_ended (h : '\r' ∉ cs) : Drained (ended cs) where
  noReturn hmem := (mem_ended hmem).elim (by decide) h
  closed := by
    rw [ended]
    split
    · assumption
    · exact .inr (by simp)

theorem ended_eq_nil_iff : ended cs = [] ↔ cs = [] := by
  constructor
  · intro h
    rw [ended] at h
    split at h
    · exact h
    · exact (List.append_eq_nil_iff.mp h).1
  · rintro rfl
    rfl

theorem uniform_eq_nil_iff : uniform cs = [] ↔ cs = [] := by
  constructor
  · intro h
    have hlast := getLast?_uniform cs
    rw [h] at hlast
    exact List.getLast?_eq_none_iff.mp (Option.map_eq_none_iff.mp hlast.symm)
  · rintro rfl
    rfl

/-- A text in normal form stays as it is. -/
theorem Drained.ended_uniform (h : Drained cs) : ended (uniform cs) = cs := by
  rw [uniform_of_notMem h.noReturn]
  exact if_pos h.closed

/-! ### Bytes -/

variable {bytes : List UInt8}

theorem toList_drainBytes (bytes : List UInt8) :
    (drainBytes bytes).toList = ended (uniform (decode bytes)) := by
  rw [drainBytes, String.toList_ofList, drain_lines]

/-- What is drained is in normal form. -/
theorem drained_drainBytes (bytes : List UInt8) : Drained (drainBytes bytes).toList := by
  rw [toList_drainBytes]
  exact drained_ended (return_notMem_uniform _)

/-- What is in normal form is drained as it is. -/
theorem Drained.drainBytes_encodeChars (h : Drained cs) :
    drainBytes (encodeChars cs) = String.ofList cs := by
  rw [drainBytes, decode_encodeChars, drain_lines, h.ended_uniform]

/-- The texts in normal form are those that can be drained. -/
theorem drained_iff_exists {s : String} : Drained s.toList ↔ ∃ bytes, drainBytes bytes = s := by
  constructor
  · exact fun h => ⟨_, h.drainBytes_encodeChars.trans String.ofList_toList⟩
  · rintro ⟨bytes, rfl⟩
    exact drained_drainBytes bytes

/-- Something is read from any bytes. -/
theorem decode_eq_nil_iff : decode bytes = [] ↔ bytes = [] := by
  constructor
  · intro h
    obtain ⟨parts, hparts, hshown⟩ := decode_parts bytes
    rw [h] at hshown
    cases hshown
    exact hparts.symm
  · rintro rfl
    rfl

theorem drainBytes_eq_empty_iff : drainBytes bytes = "" ↔ bytes = [] := by
  rw [← String.toList_eq_nil_iff, toList_drainBytes, ended_eq_nil_iff, uniform_eq_nil_iff,
    decode_eq_nil_iff]

/-- A character is read where its bytes stand, or for damage. -/
theorem mem_decode (h : c ∈ decode bytes) :
    c = Utf8.replacement ∨ String.utf8EncodeChar c <:+: bytes := by
  obtain ⟨parts, rfl, hshown⟩ := decode_parts bytes
  obtain ⟨i, hi, rfl⟩ := List.mem_iff_getElem.mp h
  have hlt : i < parts.length := hshown.length_eq ▸ hi
  refine (hshown.get hlt hi).eq_or_eq.imp_right fun hpart => ?_
  exact hpart ▸ List.infix_of_mem_flatten (List.get_mem parts ⟨i, hlt⟩)

/-- The bytes of a text are well-formed, and are those of the text. -/
theorem decode?_encodeChars (s : String) : decode? (encodeChars s.toList) = some s := by
  have hbytes : (encodeChars s.toList).toByteArray = s.toByteArray := String.utf8Encode_toList
  rw [decode?, hbytes, String.fromUTF8?, dif_pos s.isValidUTF8]
  rfl

/-- **Draining brings any bytes into a normal form**: no carriage return, and a line feed at the end
unless there are no bytes.  Every character of it is a line end, the replacement, or one whose bytes
were there, so it can be encoded; and what is encoded is drained to the same text. -/
theorem drainBytes_normal (bytes : List UInt8) :
    '\r' ∉ (drainBytes bytes).toList ∧
      (drainBytes bytes = "" ↔ bytes = []) ∧
      (bytes ≠ [] → (drainBytes bytes).toList.getLast? = some '\n') ∧
      ((∀ c ∈ (drainBytes bytes).toList,
          c = '\n' ∨ c = Utf8.replacement ∨ String.utf8EncodeChar c <:+: bytes) ∧
        decode? (encodeChars (drainBytes bytes).toList) = some (drainBytes bytes)) ∧
      drainBytes (encodeChars (drainBytes bytes).toList) = drainBytes bytes := by
  have hdrained := drained_drainBytes bytes
  refine ⟨hdrained.noReturn, drainBytes_eq_empty_iff, fun hbytes => ?_,
    ⟨fun c hc => ?_, decode?_encodeChars _⟩, ?_⟩
  · refine hdrained.closed.resolve_left fun hnil => hbytes ?_
    exact drainBytes_eq_empty_iff.mp (String.toList_eq_nil_iff.mp hnil)
  · rw [toList_drainBytes] at hc
    rcases mem_ended hc with rfl | hc
    · exact .inl rfl
    · exact (mem_of_mem_uniform hc).imp_right mem_decode
  · rw [hdrained.drainBytes_encodeChars, String.ofList_toList]

/-! ### Line feeds -/

/-- A text that is closed by a line feed is uniform up to there. -/
theorem exists_uniform_newline (cs : List Char) :
    ∃ front, uniform (cs ++ ['\n']) = front ++ ['\n'] := by
  refine List.getLast?_eq_some_iff.mp ?_
  rw [getLast?_uniform, List.getLast?_concat]
  rfl

/-- The two sides of a line feed are made uniform and closed apart. -/
theorem ended_uniform_newline (cs ds : List Char) :
    ended (uniform (cs ++ '\n' :: ds)) =
      ended (uniform (cs ++ ['\n'])) ++ ended (uniform ds) := by
  have hlast : (cs ++ ['\n']).getLast? ≠ some '\r' := by
    rw [List.getLast?_concat]
    decide
  obtain ⟨front, hfront⟩ := exists_uniform_newline cs
  rw [List.append_cons, uniform_append hlast, hfront, List.append_assoc, List.singleton_append,
    ended_append_newline, ended_append_newline, ended_nil, List.append_assoc]
  rfl

/-- **The two sides of a line feed are drained apart**, whatever stands next to it. -/
theorem drainBytes_append_newline (front rest : List UInt8) :
    drainBytes (front ++ 10 :: rest) = drainBytes (front ++ [10]) ++ drainBytes rest := by
  have hread (rest : List UInt8) :
      decode (front ++ 10 :: rest) = decode front ++ '\n' :: decode rest :=
    decode_append_ascii front (by decide) rest
  rw [← String.toList_inj, String.toList_append, toList_drainBytes, toList_drainBytes,
    toList_drainBytes, hread, hread, decode_nil, ended_uniform_newline]

/-- A character that is cut short, a carriage return before the line feed and a stray byte after
it. -/
example : drainBytes ([0xE2, 0x82, 13] ++ 10 :: [0x82, 98]) = "\ufffd\n\ufffdb\n" := by
  decide +kernel

end ServiceClient.Text
