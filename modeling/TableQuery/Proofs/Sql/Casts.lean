import Mathlib.Data.List.Forall2
import TableQuery.Proofs.Sql.Numbering

/-!
# Statements without their casts

The cast of a placeholder can be deleted from the text of a statement: it stands directly behind the
digits and ends where the name of its type does. Where every placeholder is followed by a blank, a
comma or a parenthesis, and no other text holds a dollar sign, what is left is the statement that
was written without any cast.
-/

namespace TableQuery

open TableQuery.Sql TableQuery.Text

/-- What follows a type name at the beginning of a text, with at most one schema in front of it. -/
def afterTypeName? (cs : List Char) : Option (List Char) :=
  match afterTypePart? cs with
  | some ('.' :: rest) => (afterTypePart? rest).or (some ('.' :: rest))
  | other => other

/-- What follows the cast at the beginning of a text; all of the text if no cast stands there. -/
def afterCast (cs : List Char) : List Char :=
  match cs with
  | ':' :: ':' :: type => (afterTypeName? type).getD cs
  | _ => cs

/-- A part of a type name stands at the beginning of a text. -/
theorem suffix_of_afterTypePart? {cs rest : List Char} (h : afterTypePart? cs = some rest) :
    rest <:+ cs := by
  obtain ⟨part, hcs, -⟩ := Placeholder.continues_of_afterTypePart? h
  exact ⟨part, hcs.symm⟩

/-- A type name stands at the beginning of a text. -/
theorem suffix_of_afterTypeName? {cs rest : List Char} (h : afterTypeName? cs = some rest) :
    rest <:+ cs := by
  rw [afterTypeName?] at h
  split at h
  · next name hpart =>
    have hname : name <:+ cs := (List.suffix_cons '.' name).trans (suffix_of_afterTypePart? hpart)
    cases hrest : afterTypePart? name with
    | some found =>
      rw [hrest] at h
      cases h
      exact (suffix_of_afterTypePart? hrest).trans hname
    | none =>
      rw [hrest] at h
      cases h
      exact suffix_of_afterTypePart? hpart
  · exact suffix_of_afterTypePart? h

/-- A cast stands at the beginning of a text. -/
theorem afterCast_suffix (cs : List Char) : afterCast cs <:+ cs := by
  unfold afterCast
  split
  · next type =>
    cases htype : afterTypeName? type with
    | none => exact List.suffix_rfl
    | some rest =>
      exact (suffix_of_afterTypeName? htype).trans
        ((List.suffix_cons ':' type).trans (List.suffix_cons ':' _))
  · exact List.suffix_rfl

/-- The text without the casts behind its placeholders. -/
def dropCasts : List Char → List Char
  | [] => []
  | c :: cs =>
    if c = '$' ∧ cs.takeWhile Char.isDigit ≠ [] then
      c :: (cs.takeWhile Char.isDigit ++ dropCasts (afterCast (cs.dropWhile Char.isDigit)))
    else c :: dropCasts cs
termination_by cs => cs.length
decreasing_by
  · have hcast := (afterCast_suffix (cs.dropWhile Char.isDigit)).length_le
    have hdigits := (List.dropWhile_suffix Char.isDigit (l := cs)).length_le
    rw [List.length_cons]
    omega
  · exact Nat.lt_succ_self _

/-- The text of a statement without the casts behind its placeholders. -/
def withoutCasts (sql : String) : String :=
  String.ofList (dropCasts sql.toList)

/-- A run of characters that are no delimiters does not go on into text that begins with one. -/
theorem dropWhile_append_of_delimiter {p : Char → Bool}
    (hp : ∀ c, isDelimiter c = true → p c = false) (cs : List Char) {behind : List Char}
    (hbehind : behind.head?.all isDelimiter = true) :
    (cs ++ behind).dropWhile p = cs.dropWhile p ++ behind := by
  rw [List.dropWhile_append]
  split
  · next hnone =>
    rw [List.isEmpty_iff.1 hnone, List.nil_append]
    cases behind with
    | nil => rfl
    | cons c behind => exact List.dropWhile_cons_of_neg (by rw [hp c hbehind]; decide)
  · rfl

/-- A delimiter is one of four characters. -/
theorem isDelimiter_cases {c : Char} (h : isDelimiter c = true) :
    c = ' ' ∨ c = ',' ∨ c = '(' ∨ c = ')' := by
  simpa [isDelimiter, or_assoc] using h

/-- A part of a type name ends where it did, whatever stands behind a delimiter. -/
theorem afterTypePart?_append {cs rest : List Char} (h : afterTypePart? cs = some rest)
    {behind : List Char} (hbehind : behind.head?.all isDelimiter = true) :
    afterTypePart? (cs ++ behind) = some (rest ++ behind) := by
  cases cs with
  | nil => cases h
  | cons c cs =>
    by_cases hquote : c = '"'
    · subst hquote
      obtain ⟨name, hne, hname, rfl⟩ := afterTypePart?_quote_iff.1 h
      exact afterTypePart?_quote_iff.2 ⟨name, hne, hname, by simp⟩
    · rw [afterTypePart?, if_neg hquote] at h
      rw [List.cons_append, afterTypePart?, if_neg hquote]
      split at h
      · next hstart =>
        cases h
        rw [if_pos hstart]
        have hpart : ∀ c, isDelimiter c = true → isTypePart c = false := by
          intro c hc
          rcases isDelimiter_cases hc with rfl | rfl | rfl | rfl <;> decide
        rw [dropWhile_append_of_delimiter hpart cs hbehind]
      · cases h

/-- A type name ends where it did, whatever stands behind a delimiter. -/
theorem afterTypeName?_append (type : TypeName) {behind : List Char}
    (hbehind : behind.head?.all isDelimiter = true) :
    afterTypeName? (type.text.toList ++ behind) = some behind := by
  obtain ⟨rest, hpart, hrest⟩ := isTypeNameChars_iff.1 type.wellFormed
  rw [afterTypeName?, afterTypePart?_append hpart hbehind]
  rcases hrest with rfl | ⟨name, rfl, hname⟩
  · rw [List.nil_append]
    cases behind with
    | nil => rfl
    | cons c behind => rcases isDelimiter_cases hbehind with rfl | rfl | rfl | rfl <;> rfl
  · rw [List.cons_append]
    change (afterTypePart? (name ++ behind)).or _ = _
    rw [afterTypePart?_append hname hbehind]
    rfl

/-- The cast of a placeholder ends in front of a delimiter. -/
theorem afterCast_castChars (cast : Option TypeName) {behind : List Char}
    (hbehind : behind.head?.all isDelimiter = true) :
    afterCast (Placeholder.castChars cast ++ behind) = behind := by
  cases cast with
  | some type =>
    have htype := afterTypeName?_append type hbehind
    simp only [Placeholder.castChars, List.cons_append, afterCast, htype, Option.getD_some]
  | none =>
    cases behind with
    | nil => rfl
    | cons c behind => rcases isDelimiter_cases hbehind with rfl | rfl | rfl | rfl <;> rfl

/-- Text without a dollar sign has no casts. -/
theorem dropCasts_append {cs : List Char} (h : '$' ∉ cs) (behind : List Char) :
    dropCasts (cs ++ behind) = cs ++ dropCasts behind := by
  induction cs with
  | nil => rfl
  | cons c cs ih =>
    rw [List.mem_cons, not_or] at h
    rw [List.cons_append, dropCasts, if_neg fun hc => h.1 hc.1.symm, ih h.2]
    rfl

/-- A placeholder without its cast. -/
def Piece.bare : Piece → Piece
  | .text s => .text s
  | .placeholder number _ => .placeholder number none

/-- A placeholder loses its cast once. -/
theorem Piece.bare_bare (piece : Piece) : piece.bare.bare = piece.bare := by
  cases piece <;> rfl

/-- The cast of a placeholder in front of a delimiter is deleted, and nothing else of it. -/
theorem dropCasts_placeholder (number : Nat) (cast : Option TypeName) {behind : List Char}
    (hbehind : behind.head?.all isDelimiter = true) :
    dropCasts ((Piece.placeholder number cast).render.toList ++ behind) =
      (Piece.placeholder number none).render.toList ++ dropCasts behind := by
  have hdigits : ∀ c ∈ Decimal.digits number, c.isDigit = true :=
    fun c hc => Decimal.isDigit_of_mem_digits hc
  have hnone : (Decimal.digits number) ≠ [] := Nat.toDigits_ne_nil
  have htext : (Piece.placeholder number cast).render.toList =
      '$' :: (Decimal.digits number ++ Placeholder.castChars cast) := by
    cases cast <;> simp [Piece.render, Placeholder.castChars, Decimal.natText]
  have hbare : (Piece.placeholder number none).render.toList = '$' :: Decimal.digits number := by
    simp [Piece.render, Decimal.natText]
  have hstop : (Placeholder.castChars cast ++ behind).takeWhile Char.isDigit = [] ∧
      (Placeholder.castChars cast ++ behind).dropWhile Char.isDigit =
        Placeholder.castChars cast ++ behind := by
    cases cast with
    | some type => exact ⟨rfl, rfl⟩
    | none =>
      cases behind with
      | nil => exact ⟨rfl, rfl⟩
      | cons c behind =>
        rcases isDelimiter_cases hbehind with rfl | rfl | rfl | rfl <;> exact ⟨rfl, rfl⟩
  rw [htext, hbare, List.cons_append, List.append_assoc, dropCasts,
    List.takeWhile_append_of_pos hdigits, List.dropWhile_append_of_pos hdigits, hstop.1, hstop.2,
    List.append_nil, if_pos ⟨rfl, hnone⟩, afterCast_castChars cast hbehind]
  rfl

/-- Pieces none of whose texts holds a dollar sign, with a delimiter or nothing behind every
placeholder. -/
def WellSpaced : List Piece → Prop
  | [] => True
  | .text s :: rest => '$' ∉ s.toList ∧ WellSpaced rest
  | .placeholder _ _ :: rest => startsFree (renderPieces rest) = true ∧ WellSpaced rest

/-- Deleting the casts of well-spaced pieces is writing the pieces without casts. -/
theorem dropCasts_renderPieces {pieces : List Piece} (h : WellSpaced pieces) {behind : List Char}
    (hbehind : behind.head?.all isDelimiter = true) :
    dropCasts ((renderPieces pieces).toList ++ behind) =
      (renderPieces (pieces.map Piece.bare)).toList ++ dropCasts behind := by
  induction pieces with
  | nil => rfl
  | cons piece rest ih =>
    rw [List.map_cons, renderPieces_cons, renderPieces_cons, String.toList_append,
      String.toList_append, List.append_assoc, List.append_assoc]
    cases piece with
    | text s =>
      rw [Piece.render, dropCasts_append h.1, ih h.2]
      rfl
    | placeholder number cast =>
      have hfree : ((renderPieces rest).toList ++ behind).head?.all isDelimiter = true := by
        have hrest := h.1
        rw [startsFree] at hrest
        cases hcs : (renderPieces rest).toList with
        | nil => exact hbehind
        | cons c cs => rwa [hcs] at hrest
      rw [dropCasts_placeholder number cast hfree, ih h.2]
      rfl

/-- Well-spaced pieces lose their casts in front of a text that begins with a delimiter. -/
theorem withoutCasts_append {pieces : List Piece} (h : WellSpaced pieces) {behind : String}
    (hbehind : startsFree behind = true) :
    withoutCasts (renderPieces pieces ++ behind) =
      renderPieces (pieces.map Piece.bare) ++ withoutCasts behind := by
  rw [withoutCasts, String.toList_append, dropCasts_renderPieces h hbehind, String.ofList_append,
    String.ofList_toList]
  rfl

/-- The text of well-spaced pieces without casts is that of the pieces without casts. -/
theorem withoutCasts_renderPieces {pieces : List Piece} (h : WellSpaced pieces) :
    withoutCasts (renderPieces pieces) = renderPieces (pieces.map Piece.bare) := by
  have hnothing : withoutCasts "" = "" := by
    rw [withoutCasts, String.toList_empty, dropCasts]
  have hall := @withoutCasts_append pieces h "" rfl
  rwa [String.append_empty, hnothing, String.append_empty] at hall

namespace Sql

/-- A placeholder has begun, perhaps with an open quote. -/
def Lexing.binds : Lexing → Bool
  | .bound _ => true
  | .quoted _ => true
  | _ => false

/-- Behind a dollar sign a placeholder goes on or is over. -/
theorem Lexing.binds_step {s next : Lexing} {c : Char} {emitted : List Token}
    (h : s.step c = some (next, emitted)) (hs : c = '$' ∨ s.binds = true) :
    emitted.filterMap Token.bound? ≠ [] ∨ next.binds = true := by
  rcases step_cases h with ⟨hextend, -⟩ | ⟨hextend, out, hstart, rfl⟩
  · rcases extend_cases hextend with ⟨read, rfl, hc, rfl⟩ | ⟨read, rfl, hc, rfl⟩ |
      ⟨read, rfl, -, rfl⟩ | ⟨read, rfl, -, rfl⟩ | ⟨read, rfl, -, rfl⟩ | ⟨read, rfl, -, rfl⟩
    · rcases hs with rfl | hs
      · exact absurd hc (by decide)
      · cases hs
    · rcases hs with rfl | hs
      · exact absurd hc (by decide)
      · cases hs
    all_goals exact .inr rfl
  · rcases hs with rfl | hs
    · have hdollar : start '$' = some (.bound [], []) := rfl
      rw [hdollar] at hstart
      cases hstart
      exact .inr rfl
    · cases s with
      | bound read => exact .inl (by simp [pending, Token.bound?])
      | quoted read =>
        rw [extend] at hextend
        split at hextend <;> cases hextend
      | _ => cases hs

/-- A text whose tokens are no placeholders holds no dollar sign. -/
theorem notMem_dollar {s : String} {tokens : List Token} (h : Lexed s tokens)
    (hnone : tokens.filterMap Token.bound? = []) : '$' ∉ s.toList := by
  obtain ⟨last, emitted, hscan, hlast, rfl⟩ := scan_of_lex h
  have hrun := scan_induction
    (P := fun s read emitted => '$' ∈ read →
      emitted.filterMap Token.bound? ≠ [] ∨ s.binds = true)
    (fun hmem => by cases hmem) (fun {t read emitted c next out} hread hstep hmem => ?_) hscan
  · intro hmem
    rw [List.filterMap_append, List.append_eq_nil_iff] at hnone
    rcases hrun hmem with hfound | hbinds
    · exact hfound hnone.1
    · cases last with
      | bound read => exact absurd hnone.2 (by simp [Lexing.pending, Token.bound?])
      | quoted read => cases hlast
      | _ => cases hbinds
  · rw [List.filterMap_append]
    have hgrown : ∀ found : List (List Char), found ≠ [] ∨ next.binds = true →
        emitted.filterMap Token.bound? ++ found ≠ [] ∨ next.binds = true :=
      fun found hfound => hfound.imp_left fun hne => by simp [hne]
    rcases List.mem_append.1 hmem with hbefore | hc
    · rcases hread hbefore with hfound | hbinds
      · exact .inl (by simp [hfound])
      · exact hgrown _ (Lexing.binds_step hstep (.inr hbinds))
    · exact hgrown _ (Lexing.binds_step hstep (.inl (List.mem_singleton.1 hc).symm))

/-- A text in front of a text that may stand behind every other may do so as well. -/
theorem startsFree_cons {s : String} (h : s.toList.head?.any isDelimiter = true)
    (rest : List Piece) : startsFree (renderPieces (.text s :: rest)) = true := by
  rw [renderPieces_cons, Piece.render, startsFree, String.toList_append]
  cases hcs : s.toList with
  | nil =>
    rw [hcs] at h
    cases h
  | cons c cs => rwa [hcs] at h

end Sql

namespace WellSpaced

variable {pieces first second : List Piece}

/-- Pieces whose text holds no dollar sign are well spaced: they are texts only. -/
theorem of_notMem (h : '$' ∉ (renderPieces pieces).toList) : WellSpaced pieces := by
  induction pieces with
  | nil => trivial
  | cons piece rest ih =>
    rw [renderPieces_cons, String.toList_append, List.mem_append, not_or] at h
    cases piece with
    | text s => exact ⟨h.1, ih h.2⟩
    | placeholder number cast =>
      have hdollar : '$' ∈ (Piece.placeholder number cast).render.toList := by
        cases cast <;> simp [Piece.render]
      exact absurd hdollar h.1

/-- Pieces whose text has no placeholder among its tokens are well spaced. -/
theorem of_lexed {tokens : List Token} (h : Lexed (renderPieces pieces) tokens)
    (hnone : tokens.filterMap Token.bound? = []) : WellSpaced pieces :=
  of_notMem (notMem_dollar h hnone)

/-- Well-spaced pieces stay so in front of pieces that begin with a delimiter. -/
theorem append (h : WellSpaced first) (hsecond : WellSpaced second)
    (hfree : startsFree (renderPieces second) = true) : WellSpaced (first ++ second) := by
  induction first with
  | nil => exact hsecond
  | cons piece rest ih =>
    rw [List.cons_append]
    cases piece with
    | text s => exact ⟨h.1, ih h.2⟩
    | placeholder number cast =>
      refine ⟨?_, ih h.2⟩
      rw [renderPieces_append]
      exact startsFree_append h.1 hfree

/-- Well-spaced parts stay so behind a separating text that begins with a delimiter. -/
theorem separated {separator : String} (hseparator : '$' ∉ separator.toList)
    (hhead : separator.toList.head?.any isDelimiter = true) {parts : List (List Piece)}
    (h : ∀ part ∈ parts, WellSpaced part) : WellSpaced (separated separator parts) := by
  induction parts with
  | nil => trivial
  | cons part rest ih =>
    obtain ⟨hpart, hrest⟩ := List.forall_mem_cons.1 h
    cases rest with
    | nil => exact hpart
    | cons next rest => exact hpart.append ⟨hseparator, ih hrest⟩ (startsFree_cons hhead _)

end WellSpaced

/-- Parts with a separating text lose the casts that they have. -/
theorem map_bare_separated (separator : String) (parts : List (List Piece)) :
    (separated separator parts).map Piece.bare =
      separated separator (parts.map (List.map Piece.bare)) := by
  induction parts with
  | nil => rfl
  | cons part rest ih =>
    cases rest with
    | nil => rfl
    | cons next rest =>
      change (part ++ Piece.text separator :: separated separator (next :: rest)).map Piece.bare = _
      rw [List.map_append, List.map_cons, ih]
      rfl

/-- The casts of the placeholders among some pieces, in order. -/
def casts (pieces : List Piece) : List (Option TypeName) :=
  pieces.filterMap fun
    | .text _ => none
    | .placeholder _ cast => some cast

/-- The casts of pieces in a row. -/
theorem casts_append (first second : List Piece) :
    casts (first ++ second) = casts first ++ casts second :=
  List.filterMap_append

/-- A piece and the same piece, or what is left of it without its cast. -/
def Piece.Uncast (piece piece' : Piece) : Prop :=
  piece' = piece ∨ piece' = piece.bare

/-- A piece is itself. -/
theorem Piece.Uncast.refl (piece : Piece) : piece.Uncast piece :=
  .inl rfl

/-- Pieces are themselves. -/
theorem uncast_refl (pieces : List Piece) : List.Forall₂ Piece.Uncast pieces pieces :=
  List.forall₂_same.2 fun piece _ => .refl piece

/-- What is left of pieces without any cast does not depend on the casts that they lost before. -/
theorem map_bare_uncast {pieces pieces' : List Piece}
    (h : List.Forall₂ Piece.Uncast pieces pieces') :
    pieces'.map Piece.bare = pieces.map Piece.bare := by
  induction h with
  | nil => rfl
  | cons hpiece _ ih =>
    rw [List.map_cons, List.map_cons, ih]
    rcases hpiece with rfl | rfl
    · rfl
    · rw [Piece.bare_bare]

/-- A piece without its cast is shorter, unless it had none. -/
theorem Piece.Uncast.render {piece piece' : Piece} (h : piece.Uncast piece') :
    piece'.render.length ≤ piece.render.length ∧
      (piece'.render.length = piece.render.length → piece = piece') := by
  rcases h with rfl | rfl
  · exact ⟨Nat.le_refl _, fun _ => rfl⟩
  · cases piece with
    | text s => exact ⟨Nat.le_refl _, fun _ => rfl⟩
    | placeholder number cast =>
      cases cast with
      | none => exact ⟨Nat.le_refl _, fun _ => rfl⟩
      | some type =>
        have hcast : (Piece.placeholder number none).render.length <
            (Piece.placeholder number (some type)).render.length := by
          simp only [Piece.render, String.length_append]
          have hcolons : "::".length = 2 := by decide
          omega
        exact ⟨hcast.le, fun heq => absurd heq hcast.ne⟩

/-- Pieces of which some lost their casts have a shorter text, unless all are as they were. -/
theorem length_renderPieces_uncast {pieces pieces' : List Piece}
    (h : List.Forall₂ Piece.Uncast pieces pieces') :
    (renderPieces pieces').length ≤ (renderPieces pieces).length ∧
      ((renderPieces pieces').length = (renderPieces pieces).length → pieces = pieces') := by
  induction h with
  | nil => exact ⟨Nat.le_refl _, fun _ => rfl⟩
  | @cons piece piece' rest rest' hpiece _ ih =>
    obtain ⟨hle, heq⟩ := hpiece.render
    rw [renderPieces_cons, renderPieces_cons, String.length_append, String.length_append]
    refine ⟨Nat.add_le_add hle ih.1, fun hlength => ?_⟩
    rw [heq (by omega), ih.2 (by omega)]

/-- Pieces of which none lost a cast that it had are as they were. -/
theorem eq_of_casts {pieces pieces' : List Piece} (h : List.Forall₂ Piece.Uncast pieces pieces')
    (hcasts : casts pieces' = casts pieces) : pieces = pieces' := by
  induction h with
  | nil => rfl
  | @cons piece piece' rest rest' hpiece _ ih =>
    cases piece with
    | text s =>
      have htext : piece' = .text s := hpiece.elim id id
      subst htext
      rw [ih hcasts]
    | placeholder number cast =>
      rcases hpiece with rfl | rfl
      · rw [ih (List.cons.inj hcasts).2]
      · obtain ⟨hcast, hrest⟩ := List.cons.inj hcasts
        rw [ih hrest, ← hcast]
        rfl

/-- Pieces of which some may have lost their casts have the same text exactly if they have the same
casts. -/
theorem renderPieces_eq_iff {pieces pieces' : List Piece}
    (h : List.Forall₂ Piece.Uncast pieces pieces') :
    renderPieces pieces' = renderPieces pieces ↔ casts pieces' = casts pieces := by
  constructor
  · intro htext
    rw [(length_renderPieces_uncast h).2 (congrArg String.length htext)]
  · intro hcasts
    rw [eq_of_casts h hcasts]

end TableQuery
