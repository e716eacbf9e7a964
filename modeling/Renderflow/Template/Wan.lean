import Renderflow.Graph.Basic

/-!
# WAN templates

The layouts of the graphs that WAN jobs start from. Their nodes and inputs stand in key order.
-/

namespace Renderflow.Template.Wan

/-- Text to image in two sampling stages. -/
def txt2img : Layout :=
  [ ("wan_clip", .of "CLIPLoader" "Load CLIP"
      [("clip_name", .str "umt5_xxl_fp8_e4m3fn_scaled.safetensors"),
       ("device", .str "default"),
       ("type", .str "wan")]),
    ("wan_decode", .of "VAEDecode" "VAE Decode (WAN)"
      [("samples", .link ⟨"wan_ksampler_low", 0⟩),
       ("vae", .link ⟨"wan_vae", 0⟩)]),
    ("wan_ksampler_high", .of "KSamplerAdvanced" "KSampler (High Noise)"
      [("add_noise", .str "enable"),
       ("cfg", .float 6.0),
       ("end_at_step", .int 15),
       ("latent_image", .link ⟨"wan_latent", 0⟩),
       ("model", .link ⟨"wan_shift_high", 0⟩),
       ("negative", .link ⟨"wan_neg_prompt", 0⟩),
       ("noise_seed", .int 12345),
       ("positive", .link ⟨"wan_pos_prompt", 0⟩),
       ("return_with_leftover_noise", .str "enable"),
       ("sampler_name", .str "euler"),
       ("scheduler", .str "simple"),
       ("start_at_step", .int 0),
       ("steps", .int 30)]),
    ("wan_ksampler_low", .of "KSamplerAdvanced" "KSampler (Low Noise)"
      [("add_noise", .str "disable"),
       ("cfg", .float 6.0),
       ("end_at_step", .int 10000),
       ("latent_image", .link ⟨"wan_ksampler_high", 0⟩),
       ("model", .link ⟨"wan_shift_low", 0⟩),
       ("negative", .link ⟨"wan_neg_prompt", 0⟩),
       ("noise_seed", .int 12345),
       ("positive", .link ⟨"wan_pos_prompt", 0⟩),
       ("return_with_leftover_noise", .str "disable"),
       ("sampler_name", .str "euler"),
       ("scheduler", .str "simple"),
       ("start_at_step", .int 15),
       ("steps", .int 30)]),
    ("wan_latent", .of "BobsLatentNodeAdvanced" "Bobs Latent Optimizer (WAN)"
      [("aspect_ratio", .str "1:1"),
       ("batch_size", .int 1),
       ("model_type", .str "WAN"),
       ("mp_size_float", .str "1"),
       ("upscale_by", .float 1.0)]),
    ("wan_lora", .of "Power Lora Loader (rgthree)" "Power Lora Loader (WAN)"
      [("PowerLoraLoaderHeaderWidget", .object [("type", .str "PowerLoraLoaderHeaderWidget")]),
       ("clip", .link ⟨"wan_clip", 0⟩),
       ("lora_1", .object [("lora", .str "None"), ("on", .bool false), ("strength", .int 0)]),
       ("lora_2", .object [("lora", .str "None"), ("on", .bool false), ("strength", .int 0)]),
       ("lora_3", .object [("lora", .str "None"), ("on", .bool false), ("strength", .int 0)]),
       ("lora_4", .object [("lora", .str "None"), ("on", .bool false), ("strength", .int 0)]),
       ("lora_5", .object [("lora", .str "None"), ("on", .bool false), ("strength", .int 0)]),
       ("model", .link ⟨"wan_unet_high", 0⟩),
       ("➕ Add Lora", .str "")]),
    ("wan_neg_prompt", .of "CLIPTextEncode" "Negative Prompt (WAN)"
      [("clip", .link ⟨"wan_lora", 1⟩),
       ("text", .str "NEGATIVE PROMPT HERE")]),
    ("wan_pos_prompt", .of "CLIPTextEncode" "Positive Prompt (WAN)"
      [("clip", .link ⟨"wan_lora", 1⟩),
       ("text", .str "POSITIVE PROMPT HERE")]),
    ("wan_save", .of "SaveImage" "Save Image (WAN)"
      [("filename_prefix", .str "wanbot/GEN"),
       ("images", .link ⟨"wan_decode", 0⟩)]),
    ("wan_shift_high", .of "ModelSamplingSD3" "Model Sampling (High Noise)"
      [("model", .link ⟨"wan_lora", 0⟩),
       ("shift", .float 8.0)]),
    ("wan_shift_low", .of "ModelSamplingSD3" "Model Sampling (Low Noise)"
      [("model", .link ⟨"wan_unet_low", 0⟩),
       ("shift", .float 8.0)]),
    ("wan_unet_high", .of "UNETLoader" "Load Diffusion Model (High Noise)"
      [("unet_name", .str "wan2.2_t2v_high_noise_14B_fp8_scaled.safetensors"),
       ("weight_dtype", .str "default")]),
    ("wan_unet_low", .of "UNETLoader" "Load Diffusion Model (Low Noise)"
      [("unet_name", .str "wan2.2_t2v_low_noise_14B_fp8_scaled.safetensors"),
       ("weight_dtype", .str "default")]),
    ("wan_vae", .of "VAELoader" "Load VAE"
      [("vae_name", .str "wan_2.1_vae.safetensors")]) ]

/-- Image to image in two sampling stages. -/
def img2img : Layout :=
  [ ("wan_clip", .of "CLIPLoader" "Load CLIP"
      [("clip_name", .str "umt5_xxl_fp8_e4m3fn_scaled.safetensors"),
       ("device", .str "default"),
       ("type", .str "wan")]),
    ("wan_decode", .of "VAEDecode" "VAE Decode (WAN)"
      [("samples", .link ⟨"wan_ksampler_low", 0⟩),
       ("vae", .link ⟨"wan_vae", 0⟩)]),
    ("wan_i2i_load", .of "LoadImageFromUrlOrPath" "Load Image for Img2Img"
      [("url_or_path", .str "IMAGE_URL_HERE")]),
    ("wan_i2i_resize", .of "TenosResizeToTargetPixels" "Tenos Resize to ~1M Pixels (Img2Img)"
      [("image", .link ⟨"wan_i2i_load", 0⟩),
       ("interpolation", .str "bicubic")]),
    ("wan_i2i_vae_encode", .of "VAEEncode" "VAE Encode for Img2Img"
      [("pixels", .link ⟨"wan_i2i_resize", 0⟩),
       ("vae", .link ⟨"wan_vae", 0⟩)]),
    ("wan_ksampler_high", .of "KSamplerAdvanced" "KSampler (High Noise)"
      [("add_noise", .str "enable"),
       ("cfg", .float 6.0),
       ("end_at_step", .int 15),
       ("latent_image", .link ⟨"wan_i2i_vae_encode", 0⟩),
       ("model", .link ⟨"wan_shift_high", 0⟩),
       ("negative", .link ⟨"wan_neg_prompt", 0⟩),
       ("noise_seed", .int 12345),
       ("positive", .link ⟨"wan_pos_prompt", 0⟩),
       ("return_with_leftover_noise", .str "enable"),
       ("sampler_name", .str "euler"),
       ("scheduler", .str "simple"),
       ("start_at_step", .int 0),
       ("steps", .int 30)]),
    ("wan_ksampler_low", .of "KSamplerAdvanced" "KSampler (Low Noise)"
      [("add_noise", .str "disable"),
       ("cfg", .float 6.0),
       ("end_at_step", .int 10000),
       ("latent_image", .link ⟨"wan_ksampler_high", 0⟩),
       ("model", .link ⟨"wan_shift_low", 0⟩),
       ("negative", .link ⟨"wan_neg_prompt", 0⟩),
       ("noise_seed", .int 12345),
       ("positive", .link ⟨"wan_pos_prompt", 0⟩),
       ("return_with_leftover_noise", .str "disable"),
       ("sampler_name", .str "euler"),
       ("scheduler", .str "simple"),
       ("start_at_step", .int 15),
       ("steps", .int 30)]),
    ("wan_lora", .of "Power Lora Loader (rgthree)" "Power Lora Loader (WAN)"
      [("PowerLoraLoaderHeaderWidget", .object [("type", .str "PowerLoraLoaderHeaderWidget")]),
       ("clip", .link ⟨"wan_clip", 0⟩),
       ("lora_1", .object [("lora", .str "None"), ("on", .bool false), ("strength", .int 0)]),
       ("lora_2", .object [("lora", .str "None"), ("on", .bool false), ("strength", .int 0)]),
       ("lora_3", .object [("lora", .str "None"), ("on", .bool false), ("strength", .int 0)]),
       ("lora_4", .object [("lora", .str "None"), ("on", .bool false), ("strength", .int 0)]),
       ("lora_5", .object [("lora", .str "None"), ("on", .bool false), ("strength", .int 0)]),
       ("model", .link ⟨"wan_unet_high", 0⟩),
       ("➕ Add Lora", .str "")]),
    ("wan_neg_prompt", .of "CLIPTextEncode" "Negative Prompt (WAN)"
      [("clip", .link ⟨"wan_lora", 1⟩),
       ("text", .str "NEGATIVE PROMPT HERE")]),
    ("wan_pos_prompt", .of "CLIPTextEncode" "Positive Prompt (WAN)"
      [("clip", .link ⟨"wan_lora", 1⟩),
       ("text", .str "POSITIVE PROMPT HERE")]),
    ("wan_save", .of "SaveImage" "Save Image (WAN)"
      [("filename_prefix", .str "wanbot/GEN_I2I"),
       ("images", .link ⟨"wan_decode", 0⟩)]),
    ("wan_shift_high", .of "ModelSamplingSD3" "Model Sampling (High Noise)"
      [("model", .link ⟨"wan_lora", 0⟩),
       ("shift", .float 8.0)]),
    ("wan_shift_low", .of "ModelSamplingSD3" "Model Sampling (Low Noise)"
      [("model", .link ⟨"wan_unet_low", 0⟩),
       ("shift", .float 8.0)]),
    ("wan_unet_high", .of "UNETLoader" "Load Diffusion Model (High Noise)"
      [("unet_name", .str "wan2.2_t2v_high_noise_14B_fp8_scaled.safetensors"),
       ("weight_dtype", .str "default")]),
    ("wan_unet_low", .of "UNETLoader" "Load Diffusion Model (Low Noise)"
      [("unet_name", .str "wan2.2_t2v_low_noise_14B_fp8_scaled.safetensors"),
       ("weight_dtype", .str "default")]),
    ("wan_vae", .of "VAELoader" "Load VAE"
      [("vae_name", .str "wan_2.1_vae.safetensors")]) ]

/-- A variation of an image, weak or strong. -/
def variation : Layout :=
  [ ("wan_clip", .of "CLIPLoader" "Load CLIP"
      [("clip_name", .str "umt5_xxl_fp8_e4m3fn_scaled.safetensors"),
       ("device", .str "default"),
       ("type", .str "wan")]),
    ("wan_decode", .of "VAEDecode" "VAE Decode (WAN)"
      [("samples", .link ⟨"wan_ksampler_low", 0⟩),
       ("vae", .link ⟨"wan_vae", 0⟩)]),
    ("wan_ksampler_high", .of "KSamplerAdvanced" "KSampler (High Noise)"
      [("add_noise", .str "enable"),
       ("cfg", .float 6.0),
       ("end_at_step", .int 15),
       ("latent_image", .link ⟨"wan_var_vae_encode", 0⟩),
       ("model", .link ⟨"wan_shift_high", 0⟩),
       ("negative", .link ⟨"wan_neg_prompt", 0⟩),
       ("noise_seed", .int 12345),
       ("positive", .link ⟨"wan_pos_prompt", 0⟩),
       ("return_with_leftover_noise", .str "enable"),
       ("sampler_name", .str "euler"),
       ("scheduler", .str "simple"),
       ("start_at_step", .int 0),
       ("steps", .int 30)]),
    ("wan_ksampler_low", .of "KSamplerAdvanced" "KSampler (Low Noise)"
      [("add_noise", .str "disable"),
       ("cfg", .float 6.0),
       ("end_at_step", .int 10000),
       ("latent_image", .link ⟨"wan_ksampler_high", 0⟩),
       ("model", .link ⟨"wan_shift_low", 0⟩),
       ("negative", .link ⟨"wan_neg_prompt", 0⟩),
       ("noise_seed", .int 12345),
       ("positive", .link ⟨"wan_pos_prompt", 0⟩),
       ("return_with_leftover_noise", .str "disable"),
       ("sampler_name", .str "euler"),
       ("scheduler", .str "simple"),
       ("start_at_step", .int 15),
       ("steps", .int 30)]),
    ("wan_lora", .of "Power Lora Loader (rgthree)" "Power Lora Loader (WAN)"
      [("PowerLoraLoaderHeaderWidget", .object [("type", .str "PowerLoraLoaderHeaderWidget")]),
       ("clip", .link ⟨"wan_clip", 0⟩),
       ("lora_1", .object [("lora", .str "None"), ("on", .bool false), ("strength", .int 0)]),
       ("lora_2", .object [("lora", .str "None"), ("on", .bool false), ("strength", .int 0)]),
       ("lora_3", .object [("lora", .str "None"), ("on", .bool false), ("strength", .int 0)]),
       ("lora_4", .object [("lora", .str "None"), ("on", .bool false), ("strength", .int 0)]),
       ("lora_5", .object [("lora", .str "None"), ("on", .bool false), ("strength", .int 0)]),
       ("model", .link ⟨"wan_unet_high", 0⟩),
       ("➕ Add Lora", .str "")]),
    ("wan_neg_prompt", .of "CLIPTextEncode" "Negative Prompt (WAN)"
      [("clip", .link ⟨"wan_lora", 1⟩),
       ("text", .str "NEGATIVE PROMPT HERE")]),
    ("wan_pos_prompt", .of "CLIPTextEncode" "Positive Prompt (WAN)"
      [("clip", .link ⟨"wan_lora", 1⟩),
       ("text", .str "POSITIVE PROMPT HERE")]),
    ("wan_save", .of "SaveImage" "Save Image (WAN)"
      [("filename_prefix", .str "wanbot/VAR"),
       ("images", .link ⟨"wan_decode", 0⟩)]),
    ("wan_shift_high", .of "ModelSamplingSD3" "Model Sampling (High Noise)"
      [("model", .link ⟨"wan_lora", 0⟩),
       ("shift", .float 8.0)]),
    ("wan_shift_low", .of "ModelSamplingSD3" "Model Sampling (Low Noise)"
      [("model", .link ⟨"wan_unet_low", 0⟩),
       ("shift", .float 8.0)]),
    ("wan_unet_high", .of "UNETLoader" "Load Diffusion Model (High Noise)"
      [("unet_name", .str "wan2.2_t2v_high_noise_14B_fp8_scaled.safetensors"),
       ("weight_dtype", .str "default")]),
    ("wan_unet_low", .of "UNETLoader" "Load Diffusion Model (Low Noise)"
      [("unet_name", .str "wan2.2_t2v_low_noise_14B_fp8_scaled.safetensors"),
       ("weight_dtype", .str "default")]),
    ("wan_vae", .of "VAELoader" "Load VAE"
      [("vae_name", .str "wan_2.1_vae.safetensors")]),
    ("wan_var_load", .of "LoadImageFromUrlOrPath" "Load Image for Variation"
      [("url_or_path", .str "IMAGE_URL_HERE")]),
    ("wan_var_resize", .of "TenosResizeToTargetPixels" "Tenos Resize to ~1M Pixels (Variation)"
      [("image", .link ⟨"wan_var_load", 0⟩),
       ("interpolation", .str "bicubic")]),
    ("wan_var_vae_encode", .of "VAEEncode" "VAE Encode for Variation"
      [("pixels", .link ⟨"wan_var_resize", 0⟩),
       ("vae", .link ⟨"wan_vae", 0⟩)]) ]

/-- Image to video in two sampling stages. -/
def animation : Layout :=
  [ ("wan_clip", .of "CLIPLoader" "Load CLIP"
      [("clip_name", .str "umt5_xxl_fp8_e4m3fn_scaled.safetensors"),
       ("device", .str "default"),
       ("type", .str "wan")]),
    ("wan_i2v_create", .of "CreateVideo" "Create Video"
      [("fps", .int 16),
       ("images", .link ⟨"wan_i2v_decode", 0⟩)]),
    ("wan_i2v_decode", .of "VAEDecode" "VAE Decode (WAN)"
      [("samples", .link ⟨"wan_i2v_ksampler_low", 0⟩),
       ("vae", .link ⟨"wan_vae", 0⟩)]),
    ("wan_i2v_image", .of "LoadImageFromUrlOrPath" "Start Image"
      [("url_or_path", .str "")]),
    ("wan_i2v_ksampler", .of "KSamplerAdvanced" "KSampler (High Noise)"
      [("add_noise", .str "enable"),
       ("cfg", .float 6.0),
       ("end_at_step", .int 15),
       ("latent_image", .link ⟨"wan_image_to_video", 2⟩),
       ("model", .link ⟨"wan_shift_high", 0⟩),
       ("negative", .link ⟨"wan_image_to_video", 1⟩),
       ("noise_seed", .int 12345),
       ("positive", .link ⟨"wan_image_to_video", 0⟩),
       ("return_with_leftover_noise", .str "enable"),
       ("sampler_name", .str "euler"),
       ("scheduler", .str "simple"),
       ("start_at_step", .int 0),
       ("steps", .int 30)]),
    ("wan_i2v_ksampler_low", .of "KSamplerAdvanced" "KSampler (Low Noise)"
      [("add_noise", .str "disable"),
       ("cfg", .float 6.0),
       ("end_at_step", .int 10000),
       ("latent_image", .link ⟨"wan_i2v_ksampler", 0⟩),
       ("model", .link ⟨"wan_shift_low", 0⟩),
       ("negative", .link ⟨"wan_image_to_video", 1⟩),
       ("noise_seed", .int 12345),
       ("positive", .link ⟨"wan_image_to_video", 0⟩),
       ("return_with_leftover_noise", .str "disable"),
       ("sampler_name", .str "euler"),
       ("scheduler", .str "simple"),
       ("start_at_step", .int 15),
       ("steps", .int 30)]),
    ("wan_i2v_save", .of "SaveVideo" "Save Video"
      [("codec", .str "auto"),
       ("filename_prefix", .str "wanbot/ANIMATION"),
       ("format", .str "auto"),
       ("video", .link ⟨"wan_i2v_create", 0⟩)]),
    ("wan_i2v_vision_clip", .of "CLIPVisionLoader" "Load CLIP Vision"
      [("clip_name", .str "clip_vision_h.safetensors")]),
    ("wan_i2v_vision_encode", .of "CLIPVisionEncode" "CLIP Vision Encode"
      [("clip_vision", .link ⟨"wan_i2v_vision_clip", 0⟩),
       ("crop", .str "none"),
       ("image", .link ⟨"wan_i2v_image", 0⟩)]),
    ("wan_image_to_video", .of "WanImageToVideo" "WanImageToVideo"
      [("batch_size", .int 1),
       ("clip_vision_output", .link ⟨"wan_i2v_vision_encode", 0⟩),
       ("height", .int 512),
       ("length", .int 33),
       ("negative", .link ⟨"wan_neg_prompt", 0⟩),
       ("positive", .link ⟨"wan_pos_prompt", 0⟩),
       ("start_image", .link ⟨"wan_i2v_image", 0⟩),
       ("vae", .link ⟨"wan_vae", 0⟩),
       ("width", .int 512)]),
    ("wan_neg_prompt", .of "CLIPTextEncode" "Negative Prompt (WAN)"
      [("clip", .link ⟨"wan_clip", 0⟩),
       ("text", .str "")]),
    ("wan_pos_prompt", .of "CLIPTextEncode" "Animation Prompt (WAN)"
      [("clip", .link ⟨"wan_clip", 0⟩),
       ("text", .str "ANIMATION PROMPT HERE")]),
    ("wan_shift_high", .of "ModelSamplingSD3" "Model Sampling (High Noise)"
      [("model", .link ⟨"wan_unet_high", 0⟩),
       ("shift", .float 8.0)]),
    ("wan_shift_low", .of "ModelSamplingSD3" "Model Sampling (Low Noise)"
      [("model", .link ⟨"wan_unet_low", 0⟩),
       ("shift", .float 8.0)]),
    ("wan_unet_high", .of "UNETLoader" "Load Diffusion Model (High Noise)"
      [("unet_name", .str "wan2.2_i2v_high_noise_14B_fp8_scaled.safetensors"),
       ("weight_dtype", .str "default")]),
    ("wan_unet_low", .of "UNETLoader" "Load Diffusion Model (Low Noise)"
      [("unet_name", .str "wan2.2_i2v_low_noise_14B_fp8_scaled.safetensors"),
       ("weight_dtype", .str "default")]),
    ("wan_vae", .of "VAELoader" "Load VAE"
      [("vae_name", .str "wan_2.1_vae.safetensors")]) ]

end Renderflow.Template.Wan
