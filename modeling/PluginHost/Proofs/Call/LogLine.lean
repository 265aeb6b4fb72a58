/-
# Lines that cannot be forged

A line of the plugin log has the name of the plugin in bold and the message behind it.  Both are
escaped: neither has a character that markup is made of, and an ampersand is always the beginning of
an entity (`Markup.Inert`).  So the line has no tags but the two around the name (`Markup.tags`),
and reading the entities gives both texts back (`Markup.unescape`).

The first `<` behind the opening tag is that of the closing one, whatever the texts are.  Hence a
line tells where the name ends, and no plugin can write a line that one of another name would write
(`Host.perform_log`).
-/
import Mathlib.Data.List.Basic
import Mathlib.Tactic.Lemma
import Mathlib.Tactic.SplitIfs
import PluginHost.Proofs.Call.Outbox
import PluginHost.Proofs.Registry

namespace PluginHost

namespace Markup

/-- The entities. -/
def entities : List String := ["&amp;", "&lt;", "&gt;", "&quot;"]

/-- There is nothing in the characters that would be taken for markup. -/
structure Inert (cs : List Char) : Prop where
  /-- The characters that tags and their attributes are made of do not occur. -/
  plain : ∀ c ∈ cs, c ≠ '<' ∧ c ≠ '>' ∧ c ≠ '"'
  /-- Every ampersand begins an entity. -/
  entity : ∀ front rear, cs = front ++ '&' :: rear →
    ∃ entity ∈ entities, entity.toList <+: '&' :: rear

/-- Reads characters in which entities stand for others. -/
def unescapeChars : List Char → List Char
  | [] => []
  | '&' :: 'a' :: 'm' :: 'p' :: ';' :: rest => '&' :: unescapeChars rest
  | '&' :: 'l' :: 't' :: ';' :: rest => '<' :: unescapeChars rest
  | '&' :: 'g' :: 't' :: ';' :: rest => '>' :: unescapeChars rest
  | '&' :: 'q' :: 'u' :: 'o' :: 't' :: ';' :: rest => '"' :: unescapeChars rest
  | c :: rest => c :: unescapeChars rest

/-- Reads a text in which entities stand for characters. -/
def unescape (s : String) : String := String.ofList (unescapeChars s.toList)

/-- The tags in a line: what stands between a `<` and the next `>`. -/
def tags : List Char → List String
  | [] => []
  | c :: cs =>
    if c = '<' then String.ofList (cs.takeWhile (· ≠ '>')) :: tags cs else tags cs

/-! ## Escaped texts -/

section Escape

variable {cs ds : List Char}

/-- A character is escaped as an entity, or it is none that has to be. -/
lemma escapeChar_cases (c : Char) :
    (∃ entity ∈ entities, escapeChar c = entity.toList) ∨
      (c ≠ '&' ∧ c ≠ '<' ∧ c ≠ '>' ∧ c ≠ '"') ∧ escapeChar c = [c] := by
  unfold escapeChar
  split_ifs with hamp hlt hgt hquot
  · exact .inl ⟨"&amp;", by simp [entities], rfl⟩
  · exact .inl ⟨"&lt;", by simp [entities], rfl⟩
  · exact .inl ⟨"&gt;", by simp [entities], rfl⟩
  · exact .inl ⟨"&quot;", by simp [entities], rfl⟩
  · exact .inr ⟨⟨hamp, hlt, hgt, hquot⟩, rfl⟩

lemma inert_nil : Inert [] where
  plain := nofun
  entity front rear hsplit := by simp at hsplit

/-- In an entity the only ampersand is the one in front. -/
lemma inert_entity {entity : String} (hentity : entity ∈ entities) : Inert entity.toList := by
  obtain ⟨body, hbody, hamp, hlt, hgt, hquot⟩ : ∃ body, entity.toList = '&' :: body ∧
      '&' ∉ body ∧ '<' ∉ '&' :: body ∧ '>' ∉ '&' :: body ∧ '"' ∉ '&' :: body := by
    simp only [entities, List.mem_cons, List.not_mem_nil, or_false] at hentity
    rcases hentity with rfl | rfl | rfl | rfl <;>
      exact ⟨_, rfl, by decide, by decide, by decide, by decide⟩
  rw [hbody]
  refine ⟨fun c hc => ⟨ne_of_mem_of_not_mem hc hlt, ne_of_mem_of_not_mem hc hgt,
    ne_of_mem_of_not_mem hc hquot⟩, fun front rear hsplit => ?_⟩
  cases front with
  | nil => exact ⟨entity, hentity, by rw [hbody, hsplit, List.nil_append]⟩
  | cons c front =>
    obtain ⟨-, hrest⟩ := List.cons.inj hsplit
    exact absurd (by rw [hrest]; simp) hamp

lemma inert_singleton {c : Char} (hc : c ≠ '&' ∧ c ≠ '<' ∧ c ≠ '>' ∧ c ≠ '"') : Inert [c] where
  plain d hd := by
    obtain rfl : d = c := List.mem_singleton.1 hd
    exact hc.2
  entity front rear hsplit := by
    have hmem : '&' ∈ [c] := by rw [hsplit]; simp
    exact absurd (List.mem_singleton.1 hmem).symm hc.1

lemma Inert.append (hcs : Inert cs) (hds : Inert ds) : Inert (cs ++ ds) where
  plain c hc := (List.mem_append.1 hc).elim (hcs.plain c) (hds.plain c)
  entity front rear hsplit := by
    rcases List.append_eq_append_iff.1 hsplit with ⟨middle, -, hds'⟩ | ⟨middle, hcs', hrear⟩
    · exact hds.entity middle rear hds'
    · cases middle with
      | nil => exact hds.entity [] rear hrear.symm
      | cons c middle =>
        -- the ampersand is in the first part, and its entity goes no further than that
        obtain ⟨rfl, rfl⟩ := List.cons.inj hrear
        obtain ⟨entity, hentity, hprefix⟩ := hcs.entity front middle hcs'
        exact ⟨entity, hentity, hprefix.trans (List.prefix_append _ _)⟩

/-- An escaped text has nothing that would be taken for markup. -/
lemma inert_escapeChars (cs : List Char) : Inert (escapeChars cs) := by
  induction cs with
  | nil => exact inert_nil
  | cons c cs ih =>
    rw [escapeChars, List.flatMap_cons]
    refine Inert.append ?_ ih
    rcases escapeChar_cases c with ⟨entity, hentity, heq⟩ | ⟨hc, heq⟩
    · rw [heq]
      exact inert_entity hentity
    · rw [heq]
      exact inert_singleton hc

lemma unescapeChars_cons {c : Char} (hc : c ≠ '&') (rest : List Char) :
    unescapeChars (c :: rest) = c :: unescapeChars rest := by
  rw [unescapeChars.eq_def]
  split <;> simp_all

lemma unescapeChars_escapeChar (c : Char) (rest : List Char) :
    unescapeChars (escapeChar c ++ rest) = c :: unescapeChars rest := by
  unfold escapeChar
  split_ifs with hamp hlt hgt hquot
  · rw [hamp]; rfl
  · rw [hlt]; rfl
  · rw [hgt]; rfl
  · rw [hquot]; rfl
  · exact unescapeChars_cons hamp rest

/-- Escaping is undone by reading the entities. -/
lemma unescapeChars_escapeChars (cs : List Char) : unescapeChars (escapeChars cs) = cs := by
  induction cs with
  | nil => rfl
  | cons c cs ih => rw [escapeChars, List.flatMap_cons, unescapeChars_escapeChar, ← escapeChars, ih]

lemma unescape_escape (s : String) : unescape (escape s) = s := by
  rw [unescape, escape, String.toList_ofList, unescapeChars_escapeChars, String.ofList_toList]

lemma inert_escape (s : String) : Inert (escape s).toList := by
  rw [escape, String.toList_ofList]
  exact inert_escapeChars s.toList

lemma Inert.notMem (hcs : Inert cs) : '<' ∉ cs := fun hmem => (hcs.plain '<' hmem).1 rfl

end Escape

/-! ## Lines -/

lemma tags_append {cs : List Char} (hcs : '<' ∉ cs) (rest : List Char) :
    tags (cs ++ rest) = tags rest := by
  induction cs with
  | nil => rfl
  | cons c cs ih =>
    obtain ⟨hc, hcs⟩ := not_or.1 (mt List.mem_cons.2 hcs)
    rw [List.cons_append, tags, if_neg (Ne.symm hc), ih hcs]

lemma toList_logLine (name message : String) :
    (logLine name message).toList = "<b>".toList ++
      ((escape name).toList ++ [':'] ++ '<' :: ("/b> ".toList ++ (escape message).toList)) := by
  simp [logLine, String.toList_append]

/-- The only tags are those around the name. -/
lemma tags_logLine (name message : String) :
    tags (logLine name message).toList = ["b", "/b"] := by
  have hname : '<' ∉ (escape name).toList ++ [':'] := by
    simp [(inert_escape name).notMem]
  have hmessage : '<' ∉ "/b> ".toList ++ (escape message).toList := by
    simp [(inert_escape message).notMem]
  have hopening : ∀ rest, tags ("<b>".toList ++ rest) = "b" :: tags rest := fun rest => by
    simp [tags]
  have hclosing : ∀ rest, tags ('<' :: ("/b> ".toList ++ rest)) =
      "/b" :: tags ("/b> ".toList ++ rest) := fun rest => by simp [tags]
  have hrest := tags_append hmessage []
  rw [List.append_nil] at hrest
  rw [toList_logLine, hopening, tags_append hname, hclosing, hrest, tags]

/-- A line tells the name and the message. -/
lemma logLine_inj {name message name' message' : String} :
    logLine name message = logLine name' message' ↔ name = name' ∧ message = message' := by
  refine ⟨fun hline => ?_, fun ⟨hname, hmessage⟩ => by rw [hname, hmessage]⟩
  have hlists := congrArg String.toList hline
  rw [toList_logLine, toList_logLine, List.append_right_inj] at hlists
  -- both lines have their first `<` behind the name
  have hsplit := (List.append_cons_inj_of_notMem
    (by simp [(inert_escape name).notMem]) (by simp [(inert_escape message).notMem])).1 hlists
  obtain ⟨hname, -, hmessage⟩ := hsplit
  rw [List.append_left_inj] at hname
  rw [List.append_right_inj] at hmessage
  constructor
  · rw [← unescape_escape name, ← unescape_escape name', String.toList_inj.1 hname]
  · rw [← unescape_escape message, ← unescape_escape message', String.toList_inj.1 hmessage]

end Markup

/-! ## Calls -/

namespace Host

variable {h : Host} {plugin : PluginId} {name : String}

/-- The line of an accepted plugin is passed to the log, which may crash on it. -/
lemma perform_log_of_nameOf (hname : h.registry.nameOf plugin = some name) (message : String) :
    h.perform plugin (.log message) = (h.log.write (Markup.logLine name message)).elim ⟨none, h⟩
      fun log => { h with log := log }.answer .unit := by
  have haccepted : h.registry.contains plugin = true := (Registry.nameOf_eq_some_iff.1 hname).1
  simp only [perform, isOpen, Bool.false_eq_true, if_false, verifyPlugin, haccepted, if_true,
    performAccepted, hname]
  cases h.log.write (Markup.logLine name message) <;> rfl

lemma perform_log_of_not_nameOf (hname : h.registry.nameOf plugin = none) (message : String) :
    (h.perform plugin (.log message)).host = h := by
  simp only [perform, isOpen, Bool.false_eq_true, if_false, verifyPlugin, performAccepted, hname]
  split_ifs <;> rfl

/-- A line that has come into the log is that of the plugin's name and the message. -/
lemma line_of_perform_log {lines : List String} {fatal : Option String}
    (hlog : h.log = .kept lines fatal) {message line : String}
    (hline : (h.perform plugin (.log message)).host.log.lines = lines ++ [line]) :
    ∃ name, h.registry.nameOf plugin = some name ∧ line = Markup.logLine name message := by
  have hgrown : h.log.lines ≠ lines ++ [line] := by simp [hlog, PluginLog.lines]
  rcases hname : h.registry.nameOf plugin with _ | name
  · rw [perform_log_of_not_nameOf hname] at hline
    exact absurd hline hgrown
  · rw [perform_log_of_nameOf hname] at hline
    rcases hwrite : h.log.write (Markup.logLine name message) with _ | log
    · rw [hwrite] at hline
      exact absurd hline hgrown
    · rw [hwrite] at hline
      have hlines : log.lines = lines ++ [line] := hline
      rw [hlog] at hwrite
      rw [PluginLog.lines_of_write hwrite, List.append_cancel_left_eq, List.singleton_inj] at hlines
      exact ⟨name, rfl, hlines.symm⟩

/-- **No plugin can forge the line of another one.**  What is passed to the log for a plugin has no
tags but the two around its name.  The name and the message are inert in it, and are found again
when the entities are read.  The line is that of no other name and of no other message, so a call
that brings it into a log, of whichever host, is that of a plugin with this name, and has this
message. -/
theorem perform_log (name message : String) :
    let line := Markup.logLine name message
    (∀ (h : Host) plugin, h.registry.nameOf plugin = some name →
      h.perform plugin (.log message) =
        (h.log.write line).elim ⟨none, h⟩ fun log => { h with log := log }.answer .unit) ∧
    Markup.tags line.toList = ["b", "/b"] ∧
    (∃ bold plain, line = "<b>" ++ bold ++ ":</b> " ++ plain ∧
      Markup.Inert bold.toList ∧ Markup.Inert plain.toList ∧
      Markup.unescape bold = name ∧ Markup.unescape plain = message) ∧
    (∀ name' message', Markup.logLine name' message' = line → name' = name ∧ message' = message) ∧
    ∀ (h : Host) plugin message' lines fatal, h.log = .kept lines fatal →
      (h.perform plugin (.log message')).host.log.lines = lines ++ [line] →
      h.registry.nameOf plugin = some name ∧ message' = message := by
  intro line
  refine ⟨fun h plugin hname => perform_log_of_nameOf hname message,
    Markup.tags_logLine name message,
    ⟨Markup.escape name, Markup.escape message, rfl, Markup.inert_escape name,
      Markup.inert_escape message, Markup.unescape_escape name, Markup.unescape_escape message⟩,
    fun _ _ => Markup.logLine_inj.1, fun h plugin message' lines fatal hlog hline => ?_⟩
  obtain ⟨name', hname, heq⟩ := line_of_perform_log hlog hline
  obtain ⟨rfl, rfl⟩ := Markup.logLine_inj.1 heq
  exact ⟨hname, rfl⟩

/-- A message with a tag and an entity comes into the log as what it is, and reads as before. -/
theorem perform_log_tagged :
    let line := "<b>Scout:</b> &lt;/b&gt; &amp;lt;"
    jukebox.registry.nameOf 3 = some "Scout" ∧
    (jukebox.perform 3 (.log "</b> &lt;")).host.log.lines = [line] ∧
    Markup.tags line.toList = ["b", "/b"] := by
  intro line
  have hname : jukebox.registry.nameOf 3 = some "Scout" := by decide +kernel
  obtain ⟨hperform, htags, -, -⟩ := perform_log "Scout" "</b> &lt;"
  refine ⟨hname, ?_, htags⟩
  rw [hperform jukebox 3 hname]
  rfl

end Host

end PluginHost
