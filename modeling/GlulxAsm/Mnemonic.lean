/-! The Glulx 3.1 instruction set by mnemonic. -/
namespace GlulxAsm

structure Mnemonic where
  name : String
  opcode : UInt32
  operands : Nat
  /-- The last operand is an offset from the end of the instruction. -/
  branch : Bool := false
deriving DecidableEq

namespace Mnemonic

private def op (name : String) (opcode : UInt32) (operands : Nat) : Mnemonic :=
  { name, opcode, operands }

private def jump (name : String) (opcode : UInt32) (operands : Nat) : Mnemonic :=
  { name, opcode, operands, branch := true }

def copy : Mnemonic := op "copy" 0x40 2

def call : Mnemonic := op "call" 0x30 3

def glk : Mnemonic := op "glk" 0x130 3

def table : List Mnemonic := [
  op "nop" 0x00 0,
  -- integer math
  op "add" 0x10 3,
  op "sub" 0x11 3,
  op "mul" 0x12 3,
  op "div" 0x13 3,
  op "mod" 0x14 3,
  op "neg" 0x15 2,
  op "bitand" 0x18 3,
  op "bitor" 0x19 3,
  op "bitxor" 0x1a 3,
  op "bitnot" 0x1b 2,
  op "shiftl" 0x1c 3,
  op "sshiftr" 0x1d 3,
  op "ushiftr" 0x1e 3,
  -- branches
  jump "jump" 0x20 1,
  jump "jz" 0x22 2,
  jump "jnz" 0x23 2,
  jump "jeq" 0x24 3,
  jump "jne" 0x25 3,
  jump "jlt" 0x26 3,
  jump "jge" 0x27 3,
  jump "jgt" 0x28 3,
  jump "jle" 0x29 3,
  jump "jltu" 0x2a 3,
  jump "jgeu" 0x2b 3,
  jump "jgtu" 0x2c 3,
  jump "jleu" 0x2d 3,
  op "jumpabs" 0x104 1,
  -- calls
  call,
  op "return" 0x31 1,
  jump "catch" 0x32 2,
  op "throw" 0x33 2,
  op "tailcall" 0x34 2,
  op "callf" 0x160 2,
  op "callfi" 0x161 3,
  op "callfii" 0x162 4,
  op "callfiii" 0x163 5,
  -- data movement
  copy,
  op "copys" 0x41 2,
  op "copyb" 0x42 2,
  op "sexs" 0x44 2,
  op "sexb" 0x45 2,
  op "aload" 0x48 3,
  op "aloads" 0x49 3,
  op "aloadb" 0x4a 3,
  op "aloadbit" 0x4b 3,
  op "astore" 0x4c 3,
  op "astores" 0x4d 3,
  op "astoreb" 0x4e 3,
  op "astorebit" 0x4f 3,
  -- stack
  op "stkcount" 0x50 1,
  op "stkpeek" 0x51 2,
  op "stkswap" 0x52 0,
  op "stkroll" 0x53 2,
  op "stkcopy" 0x54 1,
  -- output
  op "streamchar" 0x70 1,
  op "streamnum" 0x71 1,
  op "streamstr" 0x72 1,
  op "streamunichar" 0x73 1,
  -- system
  op "gestalt" 0x100 3,
  op "debugtrap" 0x101 1,
  op "getmemsize" 0x102 1,
  op "setmemsize" 0x103 2,
  op "random" 0x110 2,
  op "setrandom" 0x111 1,
  op "quit" 0x120 0,
  op "verify" 0x121 1,
  op "restart" 0x122 0,
  op "save" 0x123 2,
  op "restore" 0x124 2,
  op "saveundo" 0x125 1,
  op "restoreundo" 0x126 1,
  op "protect" 0x127 2,
  glk,
  op "getstringtbl" 0x140 1,
  op "setstringtbl" 0x141 1,
  op "getiosys" 0x148 2,
  op "setiosys" 0x149 2,
  op "linearsearch" 0x150 8,
  op "binarysearch" 0x151 8,
  op "linkedsearch" 0x152 7,
  op "mzero" 0x170 2,
  op "mcopy" 0x171 3,
  op "malloc" 0x178 2,
  op "mfree" 0x179 1,
  op "accelfunc" 0x180 2,
  op "accelparam" 0x181 2,
  -- floating point
  op "numtof" 0x190 2,
  op "ftonumz" 0x191 2,
  op "ftonumn" 0x192 2,
  op "ceil" 0x198 2,
  op "floor" 0x199 2,
  op "fadd" 0x1a0 3,
  op "fsub" 0x1a1 3,
  op "fmul" 0x1a2 3,
  op "fdiv" 0x1a3 3,
  op "fmod" 0x1a4 4,
  op "sqrt" 0x1a8 2,
  op "exp" 0x1a9 2,
  op "log" 0x1aa 2,
  op "pow" 0x1ab 3,
  op "sin" 0x1b0 2,
  op "cos" 0x1b1 2,
  op "tan" 0x1b2 2,
  op "asin" 0x1b3 2,
  op "acos" 0x1b4 2,
  op "atan" 0x1b5 2,
  op "atan2" 0x1b6 3,
  jump "jfeq" 0x1c0 4,
  jump "jfne" 0x1c1 4,
  jump "jflt" 0x1c2 3,
  jump "jfle" 0x1c3 3,
  jump "jfgt" 0x1c4 3,
  jump "jfge" 0x1c5 3,
  jump "jisnan" 0x1c8 2,
  jump "jisinf" 0x1c9 2]

def find? (name : String) : Option Mnemonic := table.find? (·.name == name)

end Mnemonic

end GlulxAsm
