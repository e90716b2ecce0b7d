import VpnHub.Library.IpText
import VpnHub.Library.Json
import VpnHub.Library.Lines
import VpnHub.Library.Trim
import VpnHub.Program.Daemon.Metrics

/-! # The counters of an interface in `/proc/net/dev` -/

namespace VpnHub

namespace Text

theorem parseU64_ofNat (n : UInt64) : parseU64 (ofNat n.toNat) = some n := by
  have hplus : stripPrefix (ofNat n.toNat) ['+'] = none := by
    rw [stripPrefix, if_neg]
    intro hprefix
    obtain ⟨rest, hrest⟩ := List.isPrefixOf_iff_prefix.mp hprefix
    have hmem : '+' ∈ ofNat n.toNat := by simp [← hrest]
    have hdigit : '+'.isDigit = true := isDigit_of_mem_ofNat hmem
    cases hdigit
  have hne : ofNat n.toNat ≠ [] := Nat.toDigits_ne_nil
  have hbound : n.toNat ≤ 2 ^ 64 - 1 := Nat.le_sub_one_of_lt n.toNat_lt
  rw [parseU64, parseUnsigned, hplus, Option.getD_none, if_neg hne,
    Json.decimalAux_ofNat]
  simpa [Option.filter] using hbound

end Text

namespace Daemon

/-! ## The table -/

/-- A number in a column, after one blank or more. -/
structure Column where
  padding : ℕ
  value : UInt64
  deriving DecidableEq, Repr

def Column.text (column : Column) : Text :=
  List.replicate (column.padding + 1) ' ' ++ Text.ofNat column.value.toNat

/-- A row, as the kernel prints it. The name of an interface has neither white space nor a colon. -/
structure NetDevRow where
  indent : ℕ
  name : Text
  rxBytes : Column
  received : List Column
  txBytes : Column
  transmitted : List Column
  name_valid : name ≠ [] ∧ ∀ c ∈ name, c ≠ ':' ∧ Text.isWhitespace c = false
  received_length : received.length = 7

namespace NetDevRow

def columns (row : NetDevRow) : List Column :=
  row.rxBytes :: row.received ++ row.txBytes :: row.transmitted

def stats (row : NetDevRow) : Text := row.columns.flatMap Column.text

def text (row : NetDevRow) : Text :=
  List.replicate row.indent ' ' ++ row.name ++ ':' :: row.stats

end NetDevRow

/-- The lines of a heading have no colon. -/
def Heading (line : Text) : Prop := ∀ c ∈ line, c ≠ ':' ∧ c ≠ '\n' ∧ c ≠ '\r'

def netDev (headings : List Text) (rows : List NetDevRow) : Text :=
  Text.unlines (headings ++ rows.map NetDevRow.text)

/-! ## A line -/

theorem procNetDevLine_heading {line : Text} (h : Heading line) (iface : Text) :
    procNetDevLine iface line = none := by
  have hcolon : ':' ∉ Text.trim line := fun hmem => (h ':' (Text.trim_subset line hmem)).1 rfl
  rw [procNetDevLine, Text.splitOnce_of_notMem hcolon]

theorem splitWhitespace_columns (columns : List Column) :
    Text.splitWhitespace (columns.flatMap Column.text) =
      columns.map fun column => Text.ofNat column.value.toNat := by
  induction columns with
  | nil => rfl
  | cons column columns ih =>
      have hblanks (n : ℕ) (s : Text) :
          Text.splitWhitespace (List.replicate n ' ' ++ s) = Text.splitWhitespace s := by
        induction n with
        | zero => rfl
        | succ n ih =>
            rw [List.replicate_succ, List.cons_append, Text.splitWhitespace_cons_of_pos rfl, ih]
      have hnext : ∀ c ∈ (columns.flatMap Column.text).head?, Text.isWhitespace c = true := by
        cases columns with
        | nil => simp
        | cons next columns => simp [Column.text, List.replicate_succ]; rfl
      have hdigits : Text.ofNat column.value.toNat ≠ [] := Nat.toDigits_ne_nil
      rw [List.flatMap_cons, Column.text, List.append_assoc, hblanks,
        Text.splitWhitespace_append hdigits
          (fun c hc => Text.not_isWhitespace_of_isDigit (Text.isDigit_of_mem_ofNat hc)) hnext, ih]
      rfl

namespace NetDevRow

variable (row : NetDevRow)

theorem mem_stats {c : Char} (h : c ∈ row.stats) : c = ' ' ∨ c.isDigit = true := by
  obtain ⟨column, -, hc⟩ := List.mem_flatMap.mp h
  obtain hblank | hdigit := List.mem_append.mp hc
  · exact .inl (List.eq_of_mem_replicate hblank)
  · exact .inr (Text.isDigit_of_mem_ofNat hdigit)

theorem not_isWhitespace_getLast : ∀ c ∈ row.stats.getLast?, Text.isWhitespace c = false := by
  intro c hc
  have hne : row.columns ≠ [] := by simp [columns]
  obtain ⟨front, last, hlast⟩ := List.eq_nil_or_concat row.columns |>.resolve_left hne
  have hdigits : Text.ofNat last.value.toNat ≠ [] := Nat.toDigits_ne_nil
  rw [stats, hlast, List.concat_eq_append, List.flatMap_append, List.flatMap_singleton,
    Column.text, ← List.append_assoc, List.getLast?_append_of_ne_nil _ hdigits] at hc
  exact Text.not_isWhitespace_of_isDigit
    (Text.isDigit_of_mem_ofNat (List.mem_of_getLast? hc))

theorem trim_text : Text.trim row.text = row.name ++ ':' :: row.stats := by
  have hblanks : ∀ c ∈ List.replicate row.indent ' ', Text.isWhitespace c = true := fun c hc => by
    rw [List.eq_of_mem_replicate hc]
    rfl
  rw [text, List.append_assoc, Text.trim_append_of_all hblanks]
  refine Text.trim_eq_self (fun c hc => ?_) (fun c hc => ?_)
  · obtain ⟨d, name, hname⟩ := List.exists_cons_of_ne_nil row.name_valid.1
    rw [hname] at hc
    obtain rfl : d = c := by simpa using hc
    exact (row.name_valid.2 d (hname ▸ List.mem_cons_self)).2
  · have hne : row.stats ≠ [] := by simp [stats, columns, Column.text, List.replicate_succ]
    rw [List.getLast?_append_of_ne_nil _ (List.cons_ne_nil _ _),
      List.getLast?_cons_of_ne_nil hne] at hc
    exact row.not_isWhitespace_getLast c hc

theorem procNetDevLine_text (iface : Text) : procNetDevLine iface row.text =
    if row.name = iface then some (some (row.rxBytes.value, row.txBytes.value)) else none := by
  have hcolon : ':' ∉ row.name := fun hmem => (row.name_valid.2 ':' hmem).1 rfl
  have hname : Text.trim row.name = row.name :=
    Text.trim_eq_self (fun c hc => (row.name_valid.2 c (List.mem_of_head? hc)).2)
      (fun c hc => (row.name_valid.2 c (List.mem_of_getLast? hc)).2)
  have hparts : Text.splitWhitespace row.stats =
      row.columns.map fun column => Text.ofNat column.value.toNat := splitWhitespace_columns _
  rw [procNetDevLine, trim_text, Text.splitOnce_append hcolon]
  simp only [hname, hparts]
  split
  · have hfirst : row.columns[0]? = some row.rxBytes := rfl
    have hninth : row.columns[8]? = some row.txBytes := by
      rw [columns, List.cons_append, List.getElem?_cons_succ,
        List.getElem?_append_right (by simp [row.received_length]), row.received_length]
      rfl
    simp only [List.getElem?_map, hfirst, hninth, Option.map_some, Text.parseU64_ofNat,
      Option.bind_some]
  · rfl

end NetDevRow

theorem netDevRow_line (row : NetDevRow) :
    '\n' ∉ row.text ∧ row.text.getLast? ≠ some '\r' := by
  have hmem (c : Char) (h : c ∈ row.text) :
      c = ' ' ∨ c = ':' ∨ Text.isWhitespace c = false := by
    rw [NetDevRow.text, List.mem_append, List.mem_append, List.mem_cons] at h
    obtain (hindent | hname) | rfl | hstats := h
    · exact .inl (List.eq_of_mem_replicate hindent)
    · exact .inr (.inr (row.name_valid.2 c hname).2)
    · exact .inr (.inl rfl)
    · exact (row.mem_stats hstats).imp_right fun hdigit =>
        .inr (Text.not_isWhitespace_of_isDigit hdigit)
  exact ⟨fun h => absurd (hmem _ h) (by decide),
    fun h => absurd (hmem _ (List.mem_of_getLast? h)) (by decide)⟩

/-- The counters of the first row with the name are read, whatever the table looks like. -/
theorem readProcNetDev_netDev {files : NetFiles} {headings : List Text} {rows : List NetDevRow}
    (hfile : files.readToString "/proc/net/dev".toList = some (netDev headings rows))
    (hheadings : ∀ line ∈ headings, Heading line) (iface : Text) :
    readProcNetDev files iface =
      (rows.find? (·.name = iface)).map fun row => (row.rxBytes.value, row.txBytes.value) := by
  have hlines : Text.lines (netDev headings rows) = headings ++ rows.map NetDevRow.text := by
    refine Text.lines_unlines fun line hline => ?_
    obtain hheading | hrow := List.mem_append.mp hline
    · exact ⟨fun h => (hheadings line hheading _ h).2.1 rfl,
        fun h => (hheadings line hheading _ (List.mem_of_getLast? h)).2.2 rfl⟩
    · obtain ⟨row, -, rfl⟩ := List.mem_map.mp hrow
      exact netDevRow_line row
  have hnone : headings.findSome? (procNetDevLine iface) = none :=
    List.findSome?_eq_none_iff.mpr fun line hline =>
      procNetDevLine_heading (hheadings line hline) iface
  have hrows : (rows.map NetDevRow.text).findSome? (procNetDevLine iface) =
      (rows.find? (·.name = iface)).map fun row => some (row.rxBytes.value, row.txBytes.value) := by
    clear hfile hlines
    induction rows with
    | nil => rfl
    | cons row rows ih =>
        rw [List.map_cons, List.findSome?_cons, row.procNetDevLine_text, List.find?_cons]
        by_cases hname : row.name = iface
        · simp [hname]
        · simpa [hname] using ih
  rw [readProcNetDev, hfile, Option.bind_some, hlines, List.findSome?_append, hnone,
    Option.none_or, hrows]
  cases rows.find? (·.name = iface) <;> rfl

namespace Sample

def columns (values : List UInt64) : List Column := values.map fun value => ⟨6, value⟩

/-- A row with counters of bytes only. -/
def netDevRow (indent : ℕ) (name : Text) (rx tx : UInt64)
    (h : name ≠ [] ∧ ∀ c ∈ name, c ≠ ':' ∧ Text.isWhitespace c = false) : NetDevRow where
  indent
  name
  rxBytes := ⟨0, rx⟩
  received := columns (List.replicate 7 0)
  txBytes := ⟨3, tx⟩
  transmitted := columns (List.replicate 7 0)
  name_valid := h
  received_length := rfl

def netDevRows : List NetDevRow :=
  [netDevRow 4 "lo".toList 84210 84210 (by simp [Text.isWhitespace]),
    netDevRow 2 "tun0".toList 1500 600 (by simp [Text.isWhitespace])]

def netDevHeadings : List Text :=
  ["Inter-|   Receive         |  Transmit".toList, " face |bytes    packets|bytes".toList]

/-- A host that shows its counters in `/proc/net/dev` only. -/
def procFiles : NetFiles where
  readToString path :=
    if path = "/proc/net/dev".toList then some (netDev netDevHeadings netDevRows) else none

theorem readProcNetDev_tun0 : readProcNetDev procFiles "tun0".toList = some (1500, 600) :=
  have hfile : procFiles.readToString "/proc/net/dev".toList =
      some (netDev netDevHeadings netDevRows) := rfl
  readProcNetDev_netDev hfile (by simp [netDevHeadings, Heading]) "tun0".toList

end Sample

end Daemon

end VpnHub
