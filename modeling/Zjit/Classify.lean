import Zjit.Code

/-!
# Classification of codes

What each of the three operands of an instruction is, as the optimizer and the register
allocator see it.
-/
namespace Zjit

/-- The `jit_cc_*` bits. -/
inductive Cc
  | a0Reg | a0Chg | a0Jmp | a0Rlh | a0Int | a0Flt | a0Dbl | a0Arg | a0Cnd | a1Reg | a1Chg | a1Dep
  | a1Int | a1Flt | a1Dbl | a1Arg | a1Rlh | a2Reg | a2Chg | a2Int | a2Flt | a2Dbl | a2Rlh
  deriving DecidableEq, Repr

/-- `_jit_classify`; no node has the code `last_code`, where it aborts. -/
def jitClassify : Code → Option (List Cc)
  | .data | .save | .load | .name | .label | .note | .prolog | .ellipsis | .va_push | .epilog
  | .ret | .prepare => some []
  | .live | .va_end | .retr_c | .retr_uc | .retr_s | .retr_us | .retr_i | .retr_ui | .retr_l
  | .retr_f | .retr_d | .pushargr_c | .pushargr_uc | .pushargr_s | .pushargr_us | .pushargr_i
  | .pushargr_ui | .pushargr_l | .pushargr_f | .pushargr_d | .finishr => some [.a0Reg]
  | .align | .skip | .reti_c | .reti_uc | .reti_s | .reti_us | .reti_i | .reti_ui | .reti_l
  | .pushargi_c | .pushargi_uc | .pushargi_s | .pushargi_us | .pushargi_i | .pushargi_ui
  | .pushargi_l | .finishi => some [.a0Int]
  | .reti_f | .pushargi_f => some [.a0Flt]
  | .reti_d | .pushargi_d => some [.a0Dbl]
  | .allocai => some [.a0Int, .a1Int]
  | .arg_c | .arg_s | .arg_i | .arg_l | .arg_f | .arg_d => some [.a0Int, .a0Arg]
  | .calli | .jmpi => some [.a0Jmp]
  | .callr | .jmpr => some [.a0Reg, .a0Jmp]
  | .retval_c | .retval_uc | .retval_s | .retval_us | .retval_i | .retval_ui | .retval_l
  | .retval_f | .retval_d | .va_start => some [.a0Reg, .a0Chg]
  | .getarg_c | .getarg_uc | .getarg_s | .getarg_us | .getarg_i | .getarg_ui | .getarg_l
  | .getarg_f | .getarg_d => some [.a0Reg, .a0Chg, .a1Arg]
  | .putargr_c | .putargr_uc | .putargr_s | .putargr_us | .putargr_i | .putargr_ui | .putargr_l
  | .putargr_f | .putargr_d => some [.a0Reg, .a1Arg]
  | .putargi_c | .putargi_uc | .putargi_s | .putargi_us | .putargi_i | .putargi_ui | .putargi_l =>
      some [.a0Int, .a1Arg]
  | .putargi_f => some [.a0Flt, .a1Arg]
  | .putargi_d => some [.a0Dbl, .a1Arg]
  | .movi | .ldi_c | .ldi_uc | .ldi_s | .ldi_us | .ldi_i | .ldi_ui | .ldi_l | .ldi_f | .ldi_d
  | .negi | .comi | .exti_c | .exti_uc | .exti_s | .exti_us | .exti_i | .exti_ui | .bswapi_us
  | .bswapi_ui | .bswapi_ul | .htoni_us | .htoni_ui | .htoni_ul | .cloi | .clzi | .ctoi | .ctzi
  | .rbiti | .popcnti | .movi_w_f | .movi_w_d => some [.a0Reg, .a0Chg, .a1Int]
  | .unldi | .unldi_u | .unldi_x => some [.a0Reg, .a0Chg, .a1Int, .a2Int]
  | .movi_ww_d => some [.a0Reg, .a0Chg, .a1Int, .a2Int]
  | .movi_f | .movi_f_w | .negi_f | .absi_f | .sqrti_f => some [.a0Reg, .a0Chg, .a1Flt]
  | .movi_d | .movi_d_w | .negi_d | .absi_d | .sqrti_d => some [.a0Reg, .a0Chg, .a1Dbl]
  | .movi_d_ww => some [.a0Reg, .a0Chg, .a1Reg, .a1Chg, .a2Dbl]
  | .negr | .comr | .movr | .extr_c | .extr_uc | .extr_s | .extr_us | .extr_i | .extr_ui
  | .truncr_f_i | .truncr_f_l | .truncr_d_i | .truncr_d_l | .htonr_us | .htonr_ui | .htonr_ul
  | .bswapr_us | .bswapr_ui | .bswapr_ul | .ldr_c | .ldr_uc | .ldr_s | .ldr_us | .ldr_i | .ldr_ui
  | .ldr_l | .negr_f | .absr_f | .sqrtr_f | .movr_f | .extr_f | .extr_d_f | .ldr_f | .negr_d
  | .absr_d | .sqrtr_d | .movr_d | .extr_d | .extr_f_d | .ldr_d | .rbitr | .popcntr | .clor
  | .clzr | .ctor | .ctzr | .movr_w_f | .movr_f_w | .movr_w_d | .movr_d_w | .va_arg | .va_arg_d =>
      some [.a0Reg, .a0Chg, .a1Reg]
  | .movr_d_ww => some [.a0Reg, .a0Chg, .a1Reg, .a1Chg, .a2Reg]
  | .addi | .addxi | .addci | .subi | .subxi | .subci | .rsbi | .muli | .hmuli | .hmuli_u | .divi
  | .divi_u | .remi | .remi_u | .andi | .ori | .xori | .lshi | .rshi | .rshi_u | .lroti | .rroti
  | .lti | .lti_u | .lei | .lei_u | .eqi | .gei | .gei_u | .gti | .gti_u | .nei | .ldxi_c
  | .ldxi_uc | .ldxi_s | .ldxi_us | .ldxi_i | .ldxi_ui | .ldxi_l | .ldxi_f | .ldxi_d | .unldr
  | .unldr_u | .unldr_x => some [.a0Reg, .a0Chg, .a1Reg, .a2Int]
  | .qmuli | .qmuli_u | .qdivi | .qdivi_u | .qlshi | .qlshi_u | .qrshi | .qrshi_u =>
      some [.a0Reg, .a0Rlh, .a0Chg, .a1Reg, .a2Int]
  | .addi_f | .subi_f | .rsbi_f | .muli_f | .divi_f | .lti_f | .lei_f | .eqi_f | .gei_f | .gti_f
  | .nei_f | .unlti_f | .unlei_f | .uneqi_f | .ungei_f | .ungti_f | .ltgti_f | .ordi_f
  | .unordi_f => some [.a0Reg, .a0Chg, .a1Reg, .a2Flt]
  | .addi_d | .subi_d | .rsbi_d | .muli_d | .divi_d | .lti_d | .lei_d | .eqi_d | .gei_d | .gti_d
  | .nei_d | .unlti_d | .unlei_d | .uneqi_d | .ungei_d | .ungti_d | .ltgti_d | .ordi_d
  | .unordi_d => some [.a0Reg, .a0Chg, .a1Reg, .a2Dbl]
  | .addr | .addxr | .addcr | .subr | .subxr | .subcr | .mulr | .hmulr | .hmulr_u | .divr
  | .divr_u | .remr | .remr_u | .andr | .orr | .xorr | .lshr | .rshr | .rshr_u | .lrotr | .rrotr
  | .ltr | .ltr_u | .ler | .ler_u | .eqr | .ger | .ger_u | .gtr | .gtr_u | .ner | .ldxr_c
  | .ldxr_uc | .ldxr_s | .ldxr_us | .ldxr_i | .ldxr_ui | .ldxr_l | .addr_f | .subr_f | .mulr_f
  | .divr_f | .ltr_f | .ler_f | .eqr_f | .ger_f | .gtr_f | .ner_f | .unltr_f | .unler_f
  | .uneqr_f | .unger_f | .ungtr_f | .ltgtr_f | .ordr_f | .unordr_f | .ldxr_f | .addr_d | .subr_d
  | .mulr_d | .divr_d | .ltr_d | .ler_d | .eqr_d | .ger_d | .gtr_d | .ner_d | .unltr_d | .unler_d
  | .uneqr_d | .unger_d | .ungtr_d | .ltgtr_d | .ordr_d | .unordr_d | .ldxr_d | .movr_ww_d =>
      some [.a0Reg, .a0Chg, .a1Reg, .a2Reg]
  | .qmulr | .qmulr_u | .qdivr | .qdivr_u | .qlshr | .qlshr_u | .qrshr | .qrshr_u =>
      some [.a0Reg, .a0Rlh, .a0Chg, .a1Reg, .a2Reg]
  | .sti_c | .sti_s | .sti_i | .sti_l | .sti_f | .sti_d => some [.a0Int, .a1Reg]
  | .unsti | .unsti_x => some [.a0Int, .a1Reg, .a2Int]
  | .blti | .blti_u | .blei | .blei_u | .beqi | .bgei | .bgei_u | .bgti | .bgti_u | .bnei | .bmsi
  | .bmci => some [.a0Jmp, .a1Reg, .a2Int]
  | .blti_f | .blei_f | .beqi_f | .bgei_f | .bgti_f | .bnei_f | .bunlti_f | .bunlei_f | .buneqi_f
  | .bungei_f | .bungti_f | .bltgti_f | .bordi_f | .bunordi_f => some [.a0Jmp, .a1Reg, .a2Flt]
  | .blti_d | .blei_d | .beqi_d | .bgei_d | .bgti_d | .bnei_d | .bunlti_d | .bunlei_d | .buneqi_d
  | .bungei_d | .bungti_d | .bltgti_d | .bordi_d | .bunordi_d => some [.a0Jmp, .a1Reg, .a2Dbl]
  | .allocar | .str_c | .str_s | .str_i | .str_l | .str_f | .str_d => some [.a0Reg, .a1Reg]
  | .unstr | .unstr_x => some [.a0Reg, .a1Reg, .a2Int]
  | .stxi_c | .stxi_s | .stxi_i | .stxi_l | .stxi_f | .stxi_d => some [.a0Int, .a1Reg, .a2Reg]
  | .bltr | .bltr_u | .bler | .bler_u | .beqr | .bger | .bger_u | .bgtr | .bgtr_u | .bner | .bmsr
  | .bmcr | .bltr_f | .bler_f | .beqr_f | .bger_f | .bgtr_f | .bner_f | .bunltr_f | .bunler_f
  | .buneqr_f | .bunger_f | .bungtr_f | .bltgtr_f | .bordr_f | .bunordr_f | .bltr_d | .bler_d
  | .beqr_d | .bger_d | .bgtr_d | .bner_d | .bunltr_d | .bunler_d | .buneqr_d | .bunger_d
  | .bungtr_d | .bltgtr_d | .bordr_d | .bunordr_d => some [.a0Jmp, .a1Reg, .a2Reg]
  | .boaddi | .boaddi_u | .bxaddi | .bxaddi_u | .bosubi | .bosubi_u | .bxsubi | .bxsubi_u =>
      some [.a0Jmp, .a1Reg, .a1Chg, .a2Int]
  | .stxr_c | .stxr_s | .stxr_i | .stxr_l | .stxr_f | .stxr_d => some [.a0Reg, .a1Reg, .a2Reg]
  | .boaddr | .boaddr_u | .bxaddr | .bxaddr_u | .bosubr | .bosubr_u | .bxsubr | .bxsubr_u =>
      some [.a0Jmp, .a1Reg, .a1Chg, .a2Reg]
  | .movnr | .movzr => some [.a0Reg, .a0Cnd, .a1Reg, .a2Reg]
  | .casr => some [.a0Reg, .a0Chg, .a1Reg, .a2Reg, .a2Rlh]
  | .casi => some [.a0Reg, .a0Chg, .a1Int, .a2Reg, .a2Rlh]
  | .extr | .extr_u | .depr => some [.a0Reg, .a0Chg, .a1Reg, .a2Rlh]
  | .exti | .exti_u | .depi => some [.a0Reg, .a0Chg, .a1Int, .a2Rlh]
  | .fmar_f | .fmar_d | .fmsr_f | .fmsr_d | .fnmar_f | .fnmar_d | .fnmsr_f | .fnmsr_d =>
      some [.a0Reg, .a0Chg, .a1Reg, .a1Rlh, .a2Reg]
  | .fmai_f | .fmsi_f | .fnmai_f | .fnmsi_f => some [.a0Reg, .a0Chg, .a1Reg, .a1Rlh, .a2Flt]
  | .fmai_d | .fmsi_d | .fnmai_d | .fnmsi_d => some [.a0Reg, .a0Chg, .a1Reg, .a1Rlh, .a2Dbl]
  | .ldxbi_c | .ldxai_c | .ldxbi_uc | .ldxai_uc | .ldxbi_s | .ldxai_s | .ldxbi_us | .ldxai_us
  | .ldxbi_i | .ldxai_i | .ldxbi_ui | .ldxai_ui | .ldxbi_l | .ldxai_l | .ldxbi_f | .ldxai_f
  | .ldxbi_d | .ldxai_d => some [.a0Reg, .a0Chg, .a1Reg, .a1Dep, .a2Int]
  | .ldxbr_c | .ldxar_c | .ldxbr_uc | .ldxar_uc | .ldxbr_s | .ldxar_s | .ldxbr_us | .ldxar_us
  | .ldxbr_i | .ldxar_i | .ldxbr_ui | .ldxar_ui | .ldxbr_l | .ldxar_l | .ldxbr_f | .ldxar_f
  | .ldxbr_d | .ldxar_d => some [.a0Reg, .a0Chg, .a1Reg, .a1Dep, .a2Reg]
  | .stxbi_c | .stxai_c | .stxbi_s | .stxai_s | .stxbi_i | .stxai_i | .stxbi_l | .stxai_l
  | .stxbi_f | .stxai_f | .stxbi_d | .stxai_d => some [.a0Int, .a1Reg, .a1Dep, .a2Reg]
  | .stxbr_c | .stxar_c | .stxbr_s | .stxar_s | .stxbr_i | .stxar_i | .stxbr_l | .stxar_l
  | .stxbr_f | .stxar_f | .stxbr_d | .stxar_d => some [.a0Reg, .a1Reg, .a1Dep, .a2Reg]
  | .last_code => none

end Zjit
