namespace GodotAtlas.Script

-- Words that the grammar gives a meaning of its own. Where the grammar does not ask for it, such a
-- word is a plain name.
inductive Keyword where
  | tool | signal | className | «extends» | var | const | func | «class» | enum | static
  | «if» | elif | «else» | while | «for» | «in» | «match» | when
  | pass | «break» | breakpoint | «continue» | «return» | await
  | and | or | not | is | as | true | false | null
  | «export» | onready | remote | master | puppet | remotesync | mastersync | puppetsync
  | set | get | setget | init
deriving DecidableEq, Repr

namespace Keyword

def spelling : Keyword → String
  | .tool => "tool" | .signal => "signal" | .className => "class_name" | .extends => "extends"
  | .var => "var" | .const => "const" | .func => "func" | .class => "class" | .enum => "enum"
  | .static => "static" | .if => "if" | .elif => "elif" | .else => "else" | .while => "while"
  | .for => "for" | .in => "in" | .match => "match" | .when => "when" | .pass => "pass"
  | .break => "break" | .breakpoint => "breakpoint" | .continue => "continue"
  | .return => "return" | .await => "await" | .and => "and" | .or => "or" | .not => "not"
  | .is => "is" | .as => "as" | .true => "true" | .false => "false" | .null => "null"
  | .export => "export" | .onready => "onready" | .remote => "remote" | .master => "master"
  | .puppet => "puppet" | .remotesync => "remotesync" | .mastersync => "mastersync"
  | .puppetsync => "puppetsync" | .set => "set" | .get => "get" | .setget => "setget"
  | .init => "_init"

def all : List Keyword :=
  [.tool, .signal, .className, .extends, .var, .const, .func, .class, .enum, .static,
   .if, .elif, .else, .while, .for, .in, .match, .when, .pass, .break, .breakpoint, .continue,
   .return, .await, .and, .or, .not, .is, .as, .true, .false, .null, .export, .onready,
   .remote, .master, .puppet, .remotesync, .mastersync, .puppetsync, .set, .get, .setget, .init]

def ofChars? (cs : List Char) : Option Keyword :=
  all.find? (·.spelling.toList == cs)

end Keyword

inductive Mark where
  | parenOpen | parenClose | bracketOpen | bracketClose | braceOpen | braceClose
  | comma | semicolon | colon | colonEq | eq | arrow | dot | dots | at
  | plus | minus | star | slash | power | percent | shiftLeft | shiftRight
  | amp | bar | caret | tilde | bang | ampAmp | barBar
  | eqEq | bangEq | less | greater | lessEq | greaterEq
  | plusEq | minusEq | starEq | slashEq | powerEq | percentEq
  | shiftLeftEq | shiftRightEq | ampEq | caretEq | barEq
deriving DecidableEq, Repr

namespace Mark

def spelling : Mark → String
  | .parenOpen => "(" | .parenClose => ")" | .bracketOpen => "[" | .bracketClose => "]"
  | .braceOpen => "\x7b" | .braceClose => "\x7d" | .comma => "," | .semicolon => ";"
  | .colon => ":" | .colonEq => ":=" | .eq => "=" | .arrow => "->" | .dot => "." | .dots => ".."
  | .at => "@" | .plus => "+" | .minus => "-" | .star => "*" | .slash => "/" | .power => "**"
  | .percent => "%" | .shiftLeft => "<<" | .shiftRight => ">>" | .amp => "&" | .bar => "|"
  | .caret => "^" | .tilde => "~" | .bang => "!" | .ampAmp => "&&" | .barBar => "||"
  | .eqEq => "==" | .bangEq => "!=" | .less => "<" | .greater => ">" | .lessEq => "<="
  | .greaterEq => ">=" | .plusEq => "+=" | .minusEq => "-=" | .starEq => "*=" | .slashEq => "/="
  | .powerEq => "**=" | .percentEq => "%=" | .shiftLeftEq => "<<=" | .shiftRightEq => ">>="
  | .ampEq => "&=" | .caretEq => "^=" | .barEq => "|="

def longestFirst : List Mark :=
  [.powerEq, .shiftLeftEq, .shiftRightEq,
   .colonEq, .arrow, .dots, .power, .shiftLeft, .shiftRight, .ampAmp, .barBar, .eqEq, .bangEq,
   .lessEq, .greaterEq, .plusEq, .minusEq, .starEq, .slashEq, .percentEq, .ampEq, .caretEq, .barEq,
   .parenOpen, .parenClose, .bracketOpen, .bracketClose, .braceOpen, .braceClose,
   .comma, .semicolon, .colon, .eq, .dot, .at, .plus, .minus, .star, .slash, .percent,
   .amp, .bar, .caret, .tilde, .bang, .less, .greater]

end Mark

inductive Terminal where
  | newline
  | indent | dedent
  -- The end of a one-line body, or of a whole block, in front of what closes a bracket.
  | lineClosed | blockClosed
  | endOfText
  | name | integer | float | string | nodePath | nodeReference
  | stringStart | stringText | stringEscape | stringEnd
  | comment
  | keyword (k : Keyword)
  | mark (m : Mark)
deriving DecidableEq, Repr

def Keyword.label : Keyword → String
  | .tool => "tool_statement" | .pass => "pass_statement" | .break => "break_statement"
  | .breakpoint => "breakpoint_statement" | .continue => "continue_statement"
  | .static => "static_keyword"
  | k => k.spelling

namespace Terminal

def label : Terminal → String
  | .newline => "_newline" | .indent => "_indent" | .dedent => "_dedent"
  | .lineClosed => "_body_end" | .blockClosed => "_body_end" | .endOfText => "end"
  | .name => "_identifier" | .integer => "integer" | .float => "float" | .string => "string"
  | .nodePath => "node_path" | .nodeReference => "get_node"
  | .stringStart => "_string_start" | .stringText => "_string_content"
  | .stringEscape => "escape_sequence" | .stringEnd => "_string_end" | .comment => "comment"
  | .keyword k => k.label
  | .mark m => m.spelling

def isHidden : Terminal → Bool
  | .newline | .indent | .dedent | .lineClosed | .blockClosed | .endOfText | .name
  | .stringStart | .stringText | .stringEnd => true
  | _ => false

end Terminal

end GodotAtlas.Script
