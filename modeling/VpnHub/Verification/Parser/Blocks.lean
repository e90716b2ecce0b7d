import Mathlib
import VpnHub.Library.Lines
import VpnHub.Model.Loopback
import VpnHub.Verification.Parser.Lines

/-! # Inline blocks

A block between complete lines adds itself to what the text before and after it gives, whatever
its own lines look like. -/

namespace VpnHub.Config

variable {env : ParserEnv} {tag body pre post line : Text} {front : ParsedOvpnFile}

/-- On ASCII text, lower case is what ASCII says. -/
def AsciiCase (env : ParserEnv) : Prop :=
  ∀ text : Text, (∀ c ∈ text, c.toNat < 128) → env.toLowercase text = Text.toAsciiLowercase text

/-- A name that an opening tag can have. -/
structure IsTagName (tag : Text) : Prop where
  ne_nil : tag ≠ []
  ascii : ∀ c ∈ tag, c.toNat < 128
  plain : ∀ c ∈ tag, Text.isWhitespace c = false ∧ c ≠ '<' ∧ c ≠ '>'
  opens : tag.head? ≠ some '/'

/-- A closing tag for `tag`, up to ASCII case and to blanks around it or around its name. -/
def ClosesTag (tag line : Text) : Prop :=
  ∃ name, Text.trim line = "</".toList ++ name ++ ['>'] ∧
    Text.eqIgnoreAsciiCase (Text.trim name) tag = true

/-- An inline block, with its tags on lines of their own. -/
def inlineText (tag body : Text) : Text :=
  '<' :: tag ++ ">\n".toList ++ body ++ "\n</".toList ++ tag ++ ">\n".toList

/-! ## Tags -/

theorem closing_shape_iff {text : Text} :
    (Text.startsWith text "</".toList && Text.endsWith text ['>']) = true ↔
      ∃ name, text = "</".toList ++ name ++ ['>'] := by
  rw [Bool.and_eq_true, Text.startsWith, Text.endsWith, List.isPrefixOf_iff_prefix,
    List.isSuffixOf_iff_suffix]
  constructor
  · rintro ⟨⟨rest, hrest⟩, ⟨front, hfront⟩⟩
    rcases List.eq_nil_or_concat rest with rfl | ⟨name, c, rfl⟩
    · have hlast := congrArg List.getLast? (hrest.trans hfront.symm)
      rw [List.getLast?_concat] at hlast
      exact absurd hlast (by decide)
    · rw [List.concat_eq_append, ← List.append_assoc] at hrest
      have hlast := congrArg List.getLast? (hrest.trans hfront.symm)
      rw [List.getLast?_concat, List.getLast?_concat, Option.some.injEq] at hlast
      subst hlast
      exact ⟨name, hrest.symm⟩
  · rintro ⟨name, rfl⟩
    exact ⟨⟨name ++ ['>'], (List.append_assoc _ _ _).symm⟩, ⟨_, rfl⟩⟩

theorem parseInlineCloseTag_iff (line tag : Text) :
    parseInlineCloseTag line tag = true ↔ ClosesTag tag line := by
  have hinner (name : Text) :
      (("</".toList ++ name ++ ['>']).drop 2).dropLast = name := by
    simp
  unfold ClosesTag
  rw [parseInlineCloseTag]
  constructor
  · intro h
    by_cases hshape : (Text.startsWith (Text.trim line) "</".toList &&
        Text.endsWith (Text.trim line) ['>']) = true
    · simp only [hshape, if_true] at h
      obtain ⟨name, hname⟩ := closing_shape_iff.mp hshape
      rw [hname, hinner] at h
      exact ⟨name, hname, h⟩
    · simp only [hshape] at h
      cases h
  · rintro ⟨name, hline, hname⟩
    have hshape := closing_shape_iff.mpr ⟨name, hline⟩
    simp only [hshape, if_true]
    rwa [hline, hinner]

theorem closesTag_congr {other : Text} (h : Text.trim line = Text.trim other) :
    ClosesTag tag line ↔ ClosesTag tag other := by
  unfold ClosesTag
  rw [h]

theorem not_closesTag_nil (tag : Text) : ¬ ClosesTag tag [] := by
  rintro ⟨name, hname, -⟩
  cases hname

theorem toAsciiLowercase_idem (text : Text) :
    Text.toAsciiLowercase (Text.toAsciiLowercase text) = Text.toAsciiLowercase text := by
  simp [Text.toAsciiLowercase, Char.toLower_toLower_eq_toLower]

/-- The case of the expected tag does not matter. -/
theorem closesTag_lowercase (tag line : Text) :
    ClosesTag (Text.toAsciiLowercase tag) line ↔ ClosesTag tag line := by
  simp only [ClosesTag, Text.eqIgnoreAsciiCase, toAsciiLowercase_idem]

namespace IsTagName

theorem exists_cons (h : IsTagName tag) : ∃ c rest, tag = c :: rest ∧ c ≠ '/' := by
  obtain ⟨c, rest, rfl⟩ := List.exists_cons_of_ne_nil h.ne_nil
  exact ⟨c, rest, rfl, fun hc => h.opens (by simp [hc])⟩

theorem trim_eq (h : IsTagName tag) : Text.trim tag = tag :=
  Text.trim_eq_self (fun c hc => (h.plain c (List.mem_of_mem_head? hc)).1)
    fun c hc => (h.plain c (List.mem_of_mem_getLast? hc)).1

theorem splitWhitespace_eq (h : IsTagName tag) : Text.splitWhitespace tag = [tag] :=
  Text.splitWhitespace_word h.ne_nil fun c hc => (h.plain c hc).1

theorem notMem_feed (h : IsTagName tag) : '\n' ∉ tag := fun hmem =>
  absurd (h.plain _ hmem).1 (by decide)

/-- The opening tag is read as such. -/
theorem parseInlineOpenTag_eq (h : IsTagName tag) (hcase : AsciiCase env) :
    Text.trim ('<' :: tag ++ ['>']) = '<' :: tag ++ ['>'] ∧
      parseInlineOpenTag env ('<' :: tag ++ ['>']) = some (Text.toAsciiLowercase tag, none) := by
  have htrim : Text.trim ('<' :: tag ++ ['>']) = '<' :: tag ++ ['>'] :=
    Text.trim_concat_of_neg (by decide)
  refine ⟨htrim, ?_⟩
  have hopen : (!Text.startsWith ('<' :: tag ++ ['>']) ['<'] ||
      Text.startsWith ('<' :: tag ++ ['>']) "</".toList ||
      !Text.endsWith ('<' :: tag ++ ['>']) ['>']) = false := by
    obtain ⟨c, rest, rfl, hc⟩ := h.exists_cons
    have hend : Text.endsWith ('<' :: c :: (rest ++ ['>'])) ['>'] = true :=
      List.isSuffixOf_iff_suffix.mpr ⟨'<' :: c :: rest, rfl⟩
    simp [Text.startsWith, List.isPrefixOf, hend, Ne.symm hc]
  have hinner : (('<' :: tag ++ ['>']).drop 1).dropLast = tag := by simp
  unfold parseInlineOpenTag
  simp only [htrim, hopen, hinner, h.trim_eq, h.splitWhitespace_eq]
  rw [hcase tag h.ascii]
  rfl

end IsTagName

/-! ## Lines of a block -/

theorem astLines_body {block : InlineBlock} {lines : List Text}
    (h : ∀ line ∈ lines, ¬ ClosesTag block.tag line) (n : ℕ) (result : ParsedOvpnFile) :
    astLines env n { result, block := some block } lines =
      some { result, block := some { block with
        content := block.content ++ Text.unlines lines } } := by
  induction lines generalizing n block with
  | nil => simp [astLines, Text.unlines]
  | cons line lines ih =>
      have hline : parseInlineCloseTag line block.tag = false :=
        Bool.eq_false_iff.mpr fun hclose =>
          h line List.mem_cons_self ((parseInlineCloseTag_iff line block.tag).mp hclose)
      have hrest : ∀ line ∈ lines, ¬ ClosesTag block.tag line :=
        fun line hmem => h line (List.mem_cons_of_mem _ hmem)
      rw [astLines, astLine]
      simp only [hline]
      have hnext := @ih { block with content := block.content ++ line ++ ['\n'] } hrest (n + 1)
      simpa [Text.unlines_cons] using hnext

theorem reads_block {lines : List Text} (htag : IsTagName tag) (hcase : AsciiCase env)
    (h : ∀ line ∈ lines, ¬ ClosesTag tag line) :
    Reads env (('<' :: tag ++ ['>']) :: lines ++ ["</".toList ++ tag ++ ['>']])
      { inlineBlocks := [{
          tag := Text.toAsciiLowercase tag
          content := Text.trim (Text.unlines lines)
          attr := none
          lineNumber := 1 }] } := by
  obtain ⟨htrim, hopen⟩ := htag.parseInlineOpenTag_eq hcase
  have hfirst : astLine env {} 1 ('<' :: tag ++ ['>']) = some { block := some {
      tag := Text.toAsciiLowercase tag, content := [], attr := none, lineNumber := 1 } } := by
    rw [astLine]
    simp only [htrim, hopen]
    rfl
  have hbody : ∀ line ∈ lines, ¬ ClosesTag (Text.toAsciiLowercase tag) line := by
    simpa only [closesTag_lowercase] using h
  have hclose : parseInlineCloseTag ("</".toList ++ tag ++ ['>'])
      (Text.toAsciiLowercase tag) = true := by
    rw [parseInlineCloseTag_iff, closesTag_lowercase]
    have htrim : Text.trim ("</".toList ++ tag ++ ['>']) = "</".toList ++ tag ++ ['>'] :=
      Text.trim_concat_of_neg (by decide)
    exact ⟨tag, htrim, by simp [htag.trim_eq, Text.eqIgnoreAsciiCase]⟩
  rw [Reads, List.cons_append, astLines, hfirst]
  simp only [astLines_append]
  rw [astLines_body hbody]
  simp only [Option.bind_some, astLines, astLine, hclose, if_true, List.nil_append]

theorem lines_inlineText (htag : IsTagName tag) (body : Text) : Text.lines (inlineText tag body) =
    ('<' :: tag ++ ['>']) :: Text.lines (body ++ ['\n']) ++ ["</".toList ++ tag ++ ['>']] := by
  have hparts : inlineText tag body = ('<' :: tag) ++ ['>'] ++
      '\n' :: ((body ++ ['\n']) ++ (("</".toList ++ tag) ++ ['>'] ++ '\n' :: [])) := by
    simp [inlineText]
  have hopen : '\n' ∉ ('<' :: tag) ++ ['>'] := by simp [htag.notMem_feed]
  have hclose : '\n' ∉ ("</".toList ++ tag) ++ ['>'] := by simp [htag.notMem_feed]
  have hbody : Text.EndsLine (body ++ ['\n']) := .inr ⟨body, rfl⟩
  rw [hparts, Text.lines_concat_feed hopen (by decide), hbody.lines_append,
    Text.lines_concat_feed hclose (by decide)]
  rfl

theorem endsLine_inlineText (tag body : Text) : Text.EndsLine (inlineText tag body) :=
  .inr ⟨'<' :: tag ++ ">\n".toList ++ body ++ "\n</".toList ++ tag ++ ['>'], by simp [inlineText]⟩

/-! ## Texts -/

theorem parseOvpnAst_append {before : List Text} {content : Text} (h : Reads env before front)
    (hcontent : Text.lines content = before ++ Text.lines post) (file : ParsedOvpnFile) :
    parseOvpnAst env content = some (.ok file) ↔
      ∃ back, parseOvpnAst env post = some (.ok back) ∧ file = front.behind before.length back := by
  simp only [parseOvpnAst_eq_ok, hcontent]
  constructor
  · exact h.of_append
  · rintro ⟨back, hback, rfl⟩
    exact h.behind hback

/-- No line of the body becomes a directive, and nothing around the block is taken into it. -/
theorem parseOvpnAst_inlineBlock (hcase : AsciiCase env) (htag : IsTagName tag)
    (hpre : Text.EndsLine pre) (hfront : parseOvpnAst env pre = some (.ok front))
    (hbody : ∀ line ∈ Text.lines body, ¬ ClosesTag tag line) (post : Text) :
    ((∃ file, parseOvpnAst env (pre ++ inlineText tag body ++ post) = some (.ok file)) ↔
        ∃ back, parseOvpnAst env post = some (.ok back)) ∧
      ∀ file back, parseOvpnAst env (pre ++ inlineText tag body ++ post) = some (.ok file) →
        parseOvpnAst env post = some (.ok back) →
        file.directives = front.directives ++
            back.directives.map (.shift (Text.lines (pre ++ inlineText tag body)).length) ∧
          file.inlineBlocks = front.inlineBlocks ++ [{
              tag := Text.toAsciiLowercase tag
              content := Text.trim (Text.join (Text.lines body) ['\n'])
              attr := none
              lineNumber := (Text.lines pre).length + 1 }] ++
            back.inlineBlocks.map (.shift (Text.lines (pre ++ inlineText tag body)).length) := by
  have hlines : ∀ line ∈ Text.lines (body ++ ['\n']), ¬ ClosesTag tag line := by
    intro line hline hcloses
    rcases Text.mem_lines_concat hline with rfl | ⟨other, hother, htrim⟩
    · exact not_closesTag_nil tag hcloses
    · exact hbody other hother ((closesTag_congr htrim).mp hcloses)
  have hblock := reads_block htag hcase hlines
  rw [← lines_inlineText htag, Text.trim_unlines_lines] at hblock
  have hbefore := (parseOvpnAst_eq_ok.mp hfront).behind hblock
  rw [← hpre.lines_append] at hbefore
  have hends : Text.EndsLine (pre ++ inlineText tag body) := by
    obtain hnil | ⟨inner, hinner⟩ := endsLine_inlineText tag body
    · simp [inlineText] at hnil
    · exact .inr ⟨pre ++ inner, by rw [hinner, List.append_assoc]⟩
  have happend := parseOvpnAst_append hbefore (hends.lines_append post)
  refine ⟨⟨?_, ?_⟩, ?_⟩
  · rintro ⟨file, hfile⟩
    obtain ⟨back, hback, -⟩ := (happend file).mp hfile
    exact ⟨back, hback⟩
  · rintro ⟨back, hback⟩
    exact ⟨_, (happend _).mpr ⟨back, hback, rfl⟩⟩
  · intro file back hfile hback
    obtain ⟨back', hback', rfl⟩ := (happend file).mp hfile
    obtain rfl : back' = back := by simpa [hback] using hback'.symm
    simp [ParsedOvpnFile.behind, InlineBlock.shift, Nat.add_comm]

/-- A body that looks like a directive, a comment and another block. -/
theorem parseOvpnAst_inlineBlock_ca :
    ∃ file, parseOvpnAst Protocol.Loopback.parserEnv ("client\n".toList ++
        inlineText "CA".toList "remote a\n# b\n<key>".toList ++ "nobind".toList) =
          some (.ok file) ∧
      file.directives = [⟨"client".toList, [], 1⟩, ⟨"nobind".toList, [], 7⟩] := by
  have htag : IsTagName "CA".toList :=
    ⟨by decide, by simp, by simp [Text.isWhitespace], by decide⟩
  have hbody : ∀ line ∈ Text.lines "remote a\n# b\n<key>".toList,
      ¬ ClosesTag "CA".toList line := by
    simp only [← parseInlineCloseTag_iff]
    decide +kernel
  have hfront : parseOvpnAst Protocol.Loopback.parserEnv "client\n".toList =
      some (.ok { directives := [⟨"client".toList, [], 1⟩] }) := by decide +kernel
  have hback : parseOvpnAst Protocol.Loopback.parserEnv "nobind".toList =
      some (.ok { directives := [⟨"nobind".toList, [], 1⟩] }) := by decide +kernel
  obtain ⟨hok, hparts⟩ := parseOvpnAst_inlineBlock (fun _ _ => rfl) htag
    (.inr ⟨"client".toList, rfl⟩) hfront hbody "nobind".toList
  obtain ⟨file, hfile⟩ := hok.mpr ⟨_, hback⟩
  refine ⟨file, hfile, (hparts file _ hfile hback).1.trans ?_⟩
  decide +kernel

end VpnHub.Config
